import TypstFences.Text.Basic

/-!
# Registry of tags

What is to be done with a fenced block is decided by its tag. A registry maps tags to behaviours in the
order of their registration; a tag that is not registered leaves its block alone.
-/

set_option autoImplicit false

namespace TypstFences

/-- What is done with a fenced block: it is left alone, shown as a fence without its hidden lines, or
typeset with or without the preamble. -/
inductive Behaviour where
  | passthrough
  | literal
  | renderWithPreamble
  | renderBare
  deriving DecidableEq, Inhabited

namespace Behaviour

/-- Every behaviour. -/
def all : List Behaviour := [passthrough, literal, renderWithPreamble, renderBare]

/-- The name of a behaviour. -/
def name : Behaviour → Text
  | passthrough => "passthrough".toList
  | literal => "literal".toList
  | renderWithPreamble => "render-with-preamble".toList
  | renderBare => "render-bare".toList

/-- The behaviour with a name. -/
def ofName? (name : Text) : Option Behaviour := all.find? fun behaviour => behaviour.name == name

/-- Whether blocks of this behaviour are typeset. -/
def renders : Behaviour → Bool
  | renderWithPreamble => true
  | renderBare => true
  | _ => false

end Behaviour

/-- A registered tag. -/
structure Spec where
  tag : Text
  behaviour : Behaviour
  description : Text := []
  examples : List Text := []
  deriving DecidableEq, Inhabited

/-- The registered tags in the order of their first registration. -/
structure Registry where
  specs : List Spec
  deriving DecidableEq, Inhabited

namespace Registry

/-- The specifications with one more: in the place of an older one for the same tag, or at the end. -/
def insertSpec (spec : Spec) : List Spec → List Spec
  | [] => [spec]
  | old :: specs => if old.tag = spec.tag then spec :: specs else old :: insertSpec spec specs

/-- The registry with a tag registered, which replaces what the tag stood for before. -/
def register (registry : Registry) (spec : Spec) : Registry := ⟨insertSpec spec registry.specs⟩

/-- The specification of a tag. -/
def spec? (registry : Registry) (tag : Text) : Option Spec :=
  registry.specs.find? fun spec => spec.tag == tag

/-- Whether a tag is registered. -/
def isRegistered (registry : Registry) (tag : Text) : Bool := (registry.spec? tag).isSome

/-- What a tag selects; a tag that is not registered selects nothing. -/
def behaviour (registry : Registry) (tag : Text) : Behaviour :=
  match registry.spec? tag with
  | some spec => spec.behaviour
  | none => .passthrough

/-- The specifications that select a behaviour. -/
def withBehaviour (registry : Registry) (behaviour : Behaviour) : List Spec :=
  registry.specs.filter fun spec => spec.behaviour == behaviour

/-- The three tags of Typst blocks. -/
def typst : Registry where
  specs :=
    [{ tag := "typ".toList
       behaviour := .renderWithPreamble
       description := "Compile and render, prepending the default preamble".toList
       examples := ["typ".toList, "typ,hidelines=%".toList] },
     { tag := "typ-norender".toList
       behaviour := .literal
       description := "Keep as a literal fenced block; never compiled".toList
       examples := ["typ-norender".toList, "typ-norender,hidelines=^^^".toList] },
     { tag := "typ-nopreamble".toList
       behaviour := .renderBare
       description :=
         "Compile and render the block as a complete standalone document".toList
       examples := ["typ-nopreamble".toList] }]

end Registry

end TypstFences
