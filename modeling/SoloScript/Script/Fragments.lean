/-!
# Statements of a script

A script is a list of statements in the order in which they run, joined by a semicolon and a line
feed.  Nothing follows the last one.
-/

namespace SoloScript.Script

structure Fragments where
  toList : List String
deriving DecidableEq, Repr

namespace Fragments

def separator : String := ";\n"

def empty : Fragments := ⟨[]⟩

def push (fragments : Fragments) (fragment : String) : Fragments :=
  ⟨fragments.toList ++ [fragment]⟩

def size (fragments : Fragments) : Nat := fragments.toList.length

def render (fragments : Fragments) : String := separator.intercalate fragments.toList

@[simp] theorem toList_empty : empty.toList = [] := rfl
@[simp] theorem toList_push (fragments : Fragments) (fragment : String) :
    (fragments.push fragment).toList = fragments.toList ++ [fragment] := rfl

end Fragments

end SoloScript.Script
