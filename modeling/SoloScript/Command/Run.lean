import SoloScript.Build
import SoloScript.Command.Options
import SoloScript.Config.Load
import SoloScript.Http.Fetch
import SoloScript.Log.Filter

/-!
# Running a command line

A run bundles with the configuration that the options name, or else with that of the working
directory.  It ends with code 0 if it did what was asked, with 2 if the command line was wrong, and
with 1 if anything else failed.
-/

namespace SoloScript.Command

open Log

/-- What a run leaves behind, with the names of the assets that it has asked for. -/
structure Outcome where
  code : Nat
  output : String
  errors : String
  tree : File.Tree
  started : List String
  events : List Event

def helpText : String := "\n".intercalate
  ["Bundle quiet-js into a single self-contained script", "", "Usage: quiet-bundler [OPTIONS]", "",
    "Options:",
    "  -c, --config <CONFIG>  Configuration file "
      ++ "(defaults to quiet-bundle.config.json in the working directory)",
    "  -o, --output <OUTPUT>  Override the output path",
    "  -v, --verbose          Enable verbose logging",
    "  -h, --help             Print help",
    "  -V, --version          Print version", ""]

def versionText : String := "quiet-bundler 0.1.0\n"

/-! ## Reports of failures -/

/-- A cause, with its further lines under the first. -/
def renderCause (label : String) (cause : String) : String :=
  let lines := (Text.pieces '\n' cause.toList).map String.ofList
  let margin := "".pushn ' ' label.length
  label ++ ("\n" ++ margin).intercalate lines

/-- The label of the cause with the given number: the number, if there are several causes. -/
def causeLabel (several : Bool) (number : Nat) : String :=
  if several then
    let digits := toString number
    "".pushn ' ' (5 - digits.length) ++ digits ++ ": "
  else "    "

/-- A message and what is behind it, from the outside in. -/
def renderFailure (message : String) (causes : List String) : String :=
  let rendered := causes.zipIdx.map fun (cause, i) ↦
    "\n" ++ renderCause (causeLabel (1 < causes.length) i) cause
  "Error: " ++ message
    ++ (if causes = [] then "" else "\n\nCaused by:" ++ String.join rendered) ++ "\n"

/-! ## Runs -/

/-- The configuration that the options ask for. -/
def Options.effective (options : Options) (tree : File.Tree) : Except Failure Config := do
  let config ← match options.config with
    | some path => Config.load tree path
    | none => pure (Config.discover tree ⟨"."⟩)
  return { config with outputPath := options.output.getD config.outputPath }

/-- A build with the configuration that the options ask for.  Its `requestTimeout` has no part in
it: no time passes in a network, and an answer that would come too late is one that does not
come. -/
def bundle (options : Options) (tree : File.Tree) (network : Http.Network) : Outcome :=
  match options.effective tree with
  | .error failure => ⟨1, "", renderFailure failure.message failure.causes, tree, [], []⟩
  | .ok config =>
    let build := build config (Http.fetch network) tree
    match build.result with
    | .ok report =>
      ⟨0, "", "", build.tree, build.started,
        build.events ++ [.finished report.path report.bytes]⟩
    | .error failure =>
      ⟨1, "", renderFailure ("failed to bundle into " ++ config.outputPath.text)
        (failure.message :: failure.causes), build.tree, build.started, build.events⟩

def run (words : List String) (tree : File.Tree) (network : Http.Network) : Outcome :=
  match Request.ofWords words with
  | .error misuse => ⟨2, "", misuse.message, tree, [], []⟩
  | .ok .help => ⟨0, helpText, "", tree, [], []⟩
  | .ok .version => ⟨0, versionText, "", tree, [], []⟩
  | .ok (.bundle options) => bundle options tree network

/-- The filter that the environment asks for, or else one that shows all that is told.  No event is
below the level of information, so that `verbose` has no part in it. -/
def filter (setting : Option String) : Filter :=
  (setting.bind Filter.ofText?).getD (.upTo .info)

/-- The events that a run shows. -/
def shown (setting : Option String) (events : List Event) : List Event :=
  events.filter (filter setting).admits

end SoloScript.Command
