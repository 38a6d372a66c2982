import TypstFences.Document
import TypstFences.Host
import TypstFences.PassError
import TypstFences.Render.Request
import TypstFences.Settings.Field

/-!
# Plans

What a pass is going to do with each fence of a document, decided before anything is rendered. A fence
whose tag selects nothing has no plan. All info strings are read, the first faulty one ending the pass.
-/

set_option autoImplicit false

namespace TypstFences

/-- What is to be done with a fence: the lines to show in it, or the request to render and the lines to
show above its pages. -/
inductive Plan where
  | literal (display : Text)
  | render (request : Request) (display : Text)
  deriving DecidableEq, Inhabited

namespace Plan

/-- The request of a plan. -/
def request? : Plan → Option Request
  | .literal _ => none
  | .render request _ => some request

/-- The behaviour of a block under the settings: without rendering, what would be rendered is shown as
a fence. -/
def effective (settings : Settings) (behaviour : Behaviour) : Behaviour :=
  if behaviour.renders && !settings.render then .literal else behaviour

/-- The plan for a fence with a directive. A literal fence is written under its own indentation, so its
body keeps it; a rendered block loses it before its hidden lines are looked for. -/
def ofDirective? (settings : Settings) (registry : Registry) (directive : Directive) (fence : Fence) :
    Option Plan :=
  let marker := directive.marker settings.hidelines
  match effective settings (registry.behaviour directive.tag) with
  | .passthrough => none
  | .literal => some (.literal (HiddenLines.views marker fence.body).display)
  | .renderWithPreamble =>
    let views := HiddenLines.views marker (Text.dedent fence.indent fence.body)
    some (.render ⟨views.compiled, true⟩ views.display)
  | .renderBare =>
    let views := HiddenLines.views marker (Text.dedent fence.indent fence.body)
    some (.render ⟨views.compiled, false⟩ views.display)

/-- What is noted about a fence without a tag. -/
def untaggedText (location : Location) : Text :=
  "Code block language not specified at ".toList ++ location.text

/-- The host after a directive was read: a fence without a tag may be worth a note. -/
def noteUntagged (settings : Settings) (location : Location) (directive : Directive) (host : Host) :
    Host :=
  if directive.tag.isEmpty && settings.warnNotSpecified then host.note 1 (untaggedText location)
  else host

/-- The plans for fences with the positions of their segments. -/
def ofFences (settings : Settings) (registry : Registry) (name : Text) :
    List (Nat × Fence) → Host → Except PassError (List (Nat × Plan)) × Host
  | [], host => (.ok [], host)
  | (index, fence) :: fences, host =>
    let location : Location := ⟨name, fence.line⟩
    match Directive.read registry fence.info with
    | .error fault => (.error (.invalidDirective location (Text.trim fence.info) fault), host)
    | .ok directive =>
      match ofFences settings registry name fences (noteUntagged settings location directive host) with
      | (.error error, host) => (.error error, host)
      | (.ok plans, host) =>
        match ofDirective? settings registry directive fence with
        | some plan => (.ok ((index, plan) :: plans), host)
        | none => (.ok plans, host)

/-- The requests among plans. -/
def requests (plans : List (Nat × Plan)) : List (Nat × Request) :=
  plans.filterMap fun (index, plan) => plan.request?.map (index, ·)

end Plan

end TypstFences
