import TypstFences.Pass.Plan
import TypstFences.Render.Schedule
import TypstFences.Replacement

/-!
# Passes

A pass over a document: it is scanned, each fence gets a plan, the requests are rendered, and the
document is written back with what became of its fences. A faulty document ends the pass before
anything is rendered. Blocks that fail are told one by one, unless the first failure is to end the
pass.
-/

set_option autoImplicit false

namespace TypstFences

/-- What a pass returns: the document written back, the images by name, and the failures in the order of
the document. -/
structure PassResult where
  output : Text
  artifacts : List (Text × Bytes)
  failures : List BlockFailure
  deriving DecidableEq, Inhabited

/-- What the documents of a run are written back with: one highlighter, while objects may stand elsewhere in
each pass, whatever the host is like before it. -/
structure Presses where
  highlighter : Highlighter
  address : Host → Nat → Nat → Template.Address

/-- What the document of a pass is written back with. -/
def Presses.at (presses : Presses) (host : Host) : Press := ⟨presses.highlighter, presses.address host⟩

namespace Pass

variable {ε : Type}

/-- What is noted about a fence that was found. -/
def fenceText (fence : Fence) : Text :=
  "Fence '".toList ++ fence.info ++ "' (".toList ++ Text.ofNat fence.length ++
    " backticks) at lines ".toList ++ Text.ofNat fence.line ++ '-' :: Text.ofNat fence.lastLine

/-- What is noted about a document that was scanned. -/
def documentText (document : Document) : Text :=
  document.name ++ ": ".toList ++ Text.ofNat document.fences.length ++ " fenced block(s)".toList

/-- The host after the fences of segments were noted. -/
def noteFences (segments : List Segment) (host : Host) : Host :=
  (segments.filterMap Segment.fence?).foldl (fun host fence => host.note 3 (fenceText fence)) host

/-- The document that a text is, unless a fence in it stays open. -/
def readDocument (name source : Text) (host : Host) : Except PassError Document × Host :=
  let found := scan source
  let host := noteFences found.segments host
  match found.unclosed with
  | some openFence => (.error (.unterminatedFence ⟨name, openFence.line⟩ openFence.shown), host)
  | none =>
    let document : Document := ⟨name, found.segments⟩
    (.ok document, host.note 2 (documentText document))

/-- A failure with its place in the document: the line of the fence, and as many lines below it as the
failure says. -/
def locate (name : Text) (fence : Fence) (failure : Failure) : BlockFailure :=
  ⟨⟨name, fence.line + failure.line.getD 0⟩, failure.diagnostic, failure.kind⟩

/-- A failure of the block at a position with its place in the document. -/
def locateAt (document : Document) (index : Nat) (failure : Failure) : BlockFailure :=
  locate document.name ((document.fences.lookup index).getD default) failure

/-- Failures with the positions of their blocks. -/
abbrev Failures := List (Nat × BlockFailure)

/-- What is done when a block fails: the failure is noted with its place, and it may end the pass. -/
def onFailure (settings : Settings) (document : Document) : OnFailure Failures :=
  fun index failure failures host =>
    let located := locateAt document index failure
    let failures := Named.put index located failures
    let host := host.note 1 ("Render failed at ".toList ++ located.location.text)
    if settings.failFast then (.error (.renderFailure [located]), failures, host)
    else (.ok (), failures, host)

/-- The file names of the pages of an artifact. -/
def pageNames (digest : Text) (artifact : Artifact) : List Text :=
  (List.range artifact.pages.length).map fun page => Store.pageName digest (page + 1) artifact.format

/-- Images by name with one more image, in the place of an older one of that name. -/
def addImage (name : Text) (content : Bytes) : List (Text × Bytes) → List (Text × Bytes)
  | [] => [(name, content)]
  | (other, old) :: images =>
    if other = name then (name, content) :: images else (other, old) :: addImage name content images

/-- Images by name with more images. -/
def addImages (images more : List (Text × Bytes)) : List (Text × Bytes) :=
  more.foldl (fun images image => addImage image.1 image.2 images) images

/-- What became of the fences with plans before anything is rendered: a block to typeset has no pages. -/
def planned : List (Nat × Plan) → List (Nat × Outcome) :=
  List.map fun (index, plan) =>
    (index, match plan with
      | .literal display => .literal display
      | .render _ display => .rendered display [])

/-- What becomes of a fence that has pages with names. -/
def withPages (names : List Text) : Outcome → Outcome
  | .rendered display _ => .rendered display names
  | outcome => outcome

/-- What becomes of a fence that has a failure. -/
def withFailure (failure : BlockFailure) : Outcome → Outcome
  | .rendered .. => .failed failure
  | outcome => outcome

/-- What became of the fences and the images of all pages, after more results: an artifact names its pages by
the digest of its request, and a failure is the one that was noted at its position. -/
def collect (settings : Settings) (engine : Engine ε) (requests : List (Nat × Request))
    (failures : Failures) :
    List (Nat × RenderResult) → List (Nat × Outcome) → List (Text × Bytes) → Rig ε →
      Except PassError (List (Nat × Outcome) × List (Text × Bytes)) × Rig ε
  | [], outcomes, images, rig => (.ok (outcomes, images), rig)
  | (index, .artifact artifact) :: results, outcomes, images, rig =>
    match requests.lookup index with
    | none => (.error .missingKey, rig)
    | some request =>
      match requestDigest settings engine request rig with
      | (.error error, rig) => (.error error, rig)
      | (.ok digest, rig) =>
        let names := pageNames digest artifact
        match outcomes.lookup index with
        | none => (.error .missingKey, rig)
        | some outcome =>
          collect settings engine requests failures results
            (Named.put index (withPages names outcome) outcomes)
            (addImages images (names.zip artifact.pages)) rig
  | (index, .failure _) :: results, outcomes, images, rig =>
    match outcomes.lookup index, failures.lookup index with
    | some outcome, some failure =>
      collect settings engine requests failures results
        (Named.put index (withFailure failure outcome) outcomes) images rig
    | _, _ => (.error .missingKey, rig)

/-- Failures in the order of the positions of their blocks. -/
def inOrder (failures : Failures) : List BlockFailure :=
  (failures.mergeSort fun first second => first.1 ≤ second.1).map (·.2)

/-- The result of a pass from the results of its requests and the failures that were noted. -/
def finish (press : Press) (settings : Settings) (engine : Engine ε) (document : Document)
    (plans : List (Nat × Plan)) (results : List (Nat × RenderResult)) (failures : Failures) (rig : Rig ε) :
    Except PassError PassResult × Rig ε :=
  match collect settings engine (Plan.requests plans) failures results (planned plans) [] rig with
  | (.error error, rig) => (.error error, rig)
  | (.ok (outcomes, images), rig) =>
    match Replacement.ofDocument press settings outcomes document with
    | .error error => (.error error, rig)
    | .ok output => (.ok ⟨output, images, inOrder failures⟩, rig)

/-- A pass over the document that a text is, with the requests rendered in the order of a schedule. -/
def runWith (schedule : List Nat → Schedule) (press : Press) (settings : Settings) (engine : Engine ε)
    (registry : Registry) (name source : Text) (session : Session ε) :
    Except PassError PassResult × Session ε :=
  match readDocument name source session.rig.host with
  | (.error error, host) => (.error error, session.withHost host)
  | (.ok document, host) =>
    match Plan.ofFences settings registry name document.fences host with
    | (.error error, host) => (.error error, session.withHost host)
    | (.ok plans, host) =>
      let requests := Plan.requests plans
      let order := schedule (requests.map (·.1))
      match renderRequests settings engine requests (onFailure settings document) order []
          (session.withHost host) with
      | (.error error, session) => (.error error, session)
      | (.ok (results, failures), session) =>
        let (result, rig) := finish press settings engine document plans results failures session.rig
        (result, { session with rig := rig })

/-- A pass over the document that a text is, one block after the other. -/
def run (press : Press) (settings : Settings) (engine : Engine ε) (registry : Registry) (name source : Text)
    (session : Session ε) : Except PassError PassResult × Session ε :=
  runWith Schedule.inOrder press settings engine registry name source session

end Pass

end TypstFences
