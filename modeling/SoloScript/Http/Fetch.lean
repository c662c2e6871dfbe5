import SoloScript.Http.Exchange
import SoloScript.Resolution

/-!
# Fetching assets over a network
-/

namespace SoloScript.Http

/-- The content of a response, as an asset of the kind that its source promises. -/
def assetOf (source : Asset.Source) (response : Response) : Except Failure Asset :=
  if response.isSuccess then
    match response.content with
    | .error fault => .error (.fetch source fault)
    | .ok body =>
      match source.kind with
      | .binary => .ok (.binary body)
      | .text => .ok (.text (Text.Utf8.decodeLossy body))
  else .error (.status source response.status)

/-- A request that cannot be made fails at once; every other takes a round. -/
def fetch (network : Network) : Fetcher := fun source ↦
  match requested source.url with
  | .error fault => ⟨0, .error (.fetch source fault)⟩
  | .ok target =>
    match exchange network target with
    | .error fault => ⟨1, .error (.fetch source fault)⟩
    | .ok response => ⟨1, assetOf source response⟩

end SoloScript.Http
