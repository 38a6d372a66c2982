import TypstFences.Book.Chapters

/-!
# The order of a visit

A visit to a book comes to its chapters in the order of the book, each once and before the sections below it
(`stops`). It is the run over these chapters, one after the other in one world (`runStops`), with what each is
to contain put in its place: if the contents are those that a function of the chapters gives, the book that is
returned is the old one with these contents, and differs in nothing else (`visited_visitBook`). This holds of
every value; where one has another shape than a section, the visit ends as the run does.
-/

set_option autoImplicit false

namespace TypstFences.Book

variable {ε : Type}

/-- The fields of an object. -/
abbrev Fields := List (Text × Json)

/-- What a visit comes to: a chapter with some fields, or a value of the wrong shape. -/
inductive Stop where
  | chapter (fields : Fields)
  | malformed (fault : ShapeFault)

mutual

/-- What a visit to a section comes to. -/
def stops (item : Json) : List Stop :=
  match item with
  | .object fields =>
    match _h : Json.lookup chapterKey fields with
    | some (.object chapter) => .chapter chapter :: stopsBelow chapter
    | some _ => [.malformed .noFields]
    | none =>
      match _h : Json.lookup partKey fields with
      | some (.object part) => stopsBelow part
      | _ => []
  | other => if isPassedOver other then [] else [.malformed .unusable]
termination_by sizeOf item
decreasing_by
  · have := Json.sizeOf_lt_of_lookup _h
    simp at this ⊢
    omega
  · have := Json.sizeOf_lt_of_lookup _h
    simp at this ⊢
    omega

/-- What a visit comes to below a chapter or a part with some fields. -/
def stopsBelow (fields : Fields) : List Stop :=
  match _h : Json.lookup childrenKey fields with
  | none => []
  | some (.list children) => stopsAll children
  | some other => if isPassedOverGroup other then [] else [.malformed .unusable]
termination_by sizeOf fields
decreasing_by
  have := Json.sizeOf_lt_of_lookup _h
  simp at this
  omega

/-- What a visit to sections comes to. -/
def stopsAll : List Json → List Stop
  | [] => []
  | first :: rest => stops first ++ stopsAll rest
termination_by sections => sizeOf sections

end

mutual

/-- A section with other contents of its chapters. -/
def withContents (content : Fields → Text) (item : Json) : Json :=
  match item with
  | .object fields =>
    match _h : Json.lookup chapterKey fields with
    | some (.object chapter) =>
      let chapter := Json.assign contentKey (.string (content chapter)) (withContentsBelow content chapter)
      .object (Json.assign chapterKey (.object chapter) fields)
    | some _ => .object fields
    | none =>
      match _h : Json.lookup partKey fields with
      | some (.object part) =>
        .object (Json.assign partKey (.object (withContentsBelow content part)) fields)
      | _ => .object fields
  | other => other
termination_by sizeOf item
decreasing_by
  · have := Json.sizeOf_lt_of_lookup _h
    simp at this ⊢
    omega
  · have := Json.sizeOf_lt_of_lookup _h
    simp at this ⊢
    omega

/-- The fields of a chapter or a part with other contents of the chapters below it. -/
def withContentsBelow (content : Fields → Text) (fields : Fields) : Fields :=
  match _h : Json.lookup childrenKey fields with
  | some (.list children) => Json.assign childrenKey (.list (withContentsAll content children)) fields
  | _ => fields
termination_by sizeOf fields
decreasing_by
  have := Json.sizeOf_lt_of_lookup _h
  simp at this
  omega

/-- Sections with other contents of their chapters. -/
def withContentsAll (content : Fields → Text) : List Json → List Json
  | [] => []
  | first :: rest => withContents content first :: withContentsAll content rest
termination_by sections => sizeOf sections

end

/-- What a visit to a book comes to: the first of some keys under which there is something counts. -/
def stopsUnder (fields : Fields) : List Text → List Stop
  | [] => []
  | key :: keys =>
    match (Json.lookup key fields).filter fun value => !value.isNothing with
    | none => stopsUnder fields keys
    | some (.list sections) => stopsAll sections
    | some other => if isPassedOverGroup other then [] else [.malformed .unusable]

/-- What a visit to a book comes to. -/
def bookStops : Json → List Stop
  | .object fields => stopsUnder fields sectionKeys
  | _ => [.malformed .noFields]

/-- The fields of a book with other contents of its chapters. -/
def withContentsUnder (content : Fields → Text) (fields : Fields) : List Text → Fields
  | [] => fields
  | key :: keys =>
    match (Json.lookup key fields).filter fun value => !value.isNothing with
    | none => withContentsUnder content fields keys
    | some (.list sections) => Json.assign key (.list (withContentsAll content sections)) fields
    | some _ => fields

/-- A book with other contents of its chapters. -/
def bookWithContents (content : Fields → Text) : Json → Json
  | .object fields => .object (withContentsUnder content fields sectionKeys)
  | other => other

/-! ## One step of each -/

/-- What a visit to an object comes to. -/
theorem stops_object (fields : Fields) :
    stops (.object fields) =
      match Json.lookup chapterKey fields with
      | some (.object chapter) => .chapter chapter :: stopsBelow chapter
      | some _ => [.malformed .noFields]
      | none =>
        match Json.lookup partKey fields with
        | some (.object part) => stopsBelow part
        | _ => [] := by
  rw [stops]
  split
  · rename_i h
    rw [h]
  · rename_i value other h
    rw [h]
    cases value with
    | object chapter => exact absurd rfl (other chapter)
    | _ => rfl
  · rename_i h
    rw [h]
    simp only
    split
    · rename_i h
      rw [h]
    · rename_i other
      split
      · rename_i part h
        exact absurd h (other part)
      · rfl

/-- What a visit comes to below a chapter or a part. -/
theorem stopsBelow_eq (fields : Fields) :
    stopsBelow fields =
      match Json.lookup childrenKey fields with
      | none => []
      | some (.list children) => stopsAll children
      | some other => if isPassedOverGroup other then [] else [.malformed .unusable] := by
  rw [stopsBelow]
  split
  · rename_i h
    rw [h]
  · rename_i children h
    rw [h]
  · rename_i value other h
    rw [h]
    cases value with
    | list children => exact absurd rfl (other children)
    | _ => rfl

/-- Contents are put into the chapter that an object is, and below it. -/
theorem withContents_object (content : Fields → Text) (fields : Fields) :
    withContents content (.object fields) =
      match Json.lookup chapterKey fields with
      | some (.object chapter) =>
        .object (Json.assign chapterKey (.object (Json.assign contentKey (.string (content chapter))
          (withContentsBelow content chapter))) fields)
      | some _ => .object fields
      | none =>
        match Json.lookup partKey fields with
        | some (.object part) =>
          .object (Json.assign partKey (.object (withContentsBelow content part)) fields)
        | _ => .object fields := by
  rw [withContents]
  split
  · rename_i h
    rw [h]
  · rename_i value other h
    rw [h]
    cases value with
    | object chapter => exact absurd rfl (other chapter)
    | _ => rfl
  · rename_i h
    rw [h]
    simp only
    split
    · rename_i h
      rw [h]
    · rename_i other
      split
      · rename_i part h
        exact absurd h (other part)
      · rfl

/-- Contents are put into the sections below a chapter or a part. -/
theorem withContentsBelow_eq (content : Fields → Text) (fields : Fields) :
    withContentsBelow content fields =
      match Json.lookup childrenKey fields with
      | some (.list children) => Json.assign childrenKey (.list (withContentsAll content children)) fields
      | _ => fields := by
  rw [withContentsBelow]
  split
  · rename_i h
    rw [h]
  · rename_i other
    split
    · rename_i children h
      exact absurd h (other children)
    · rfl

/-- An object is visited in these steps. -/
theorem visit_object (shop : Shop ε) (fields : Fields) (world : World ε) :
    visit shop (.object fields) world =
      match Json.lookup chapterKey fields with
      | some (.object chapter) =>
        match compileChapter shop (.object chapter) world with
        | (.error fault, world) => (.error fault, world)
        | (.ok content, world) =>
          match visitBelow shop chapter world with
          | (.error fault, world) => (.error fault, world)
          | (.ok visited, world) =>
            (.ok (.object (Json.assign chapterKey
              (.object (Json.assign contentKey (.string content) visited)) fields)), world)
      | some _ => (.error (.shape .noFields), world)
      | none =>
        match Json.lookup partKey fields with
        | some (.object part) =>
          match visitBelow shop part world with
          | (.error fault, world) => (.error fault, world)
          | (.ok visited, world) => (.ok (.object (Json.assign partKey (.object visited) fields)), world)
        | _ => (.ok (.object fields), world) := by
  rw [visit]
  split
  · rename_i h
    rewrite [h]
    rfl
  · rename_i value other h
    rw [h]
    cases value with
    | object chapter => exact absurd rfl (other chapter)
    | _ => rfl
  · rename_i h
    rw [h]
    simp only
    split
    · rename_i h
      rewrite [h]
      rfl
    · rename_i other
      split
      · rename_i part h
        exact absurd h (other part)
      · rfl

/-- The sections below a chapter or a part are visited in these steps. -/
theorem visitBelow_eq (shop : Shop ε) (fields : Fields) (world : World ε) :
    visitBelow shop fields world =
      match Json.lookup childrenKey fields with
      | none => (.ok fields, world)
      | some (.list children) =>
        match visitAll shop children world with
        | (.error fault, world) => (.error fault, world)
        | (.ok visited, world) => (.ok (Json.assign childrenKey (.list visited) fields), world)
      | some other =>
        if isPassedOverGroup other then (.ok fields, world) else (.error (.shape .unusable), world) := by
  rw [visitBelow]
  split
  · rename_i h
    rw [h]
  · rename_i children h
    rewrite [h]
    rfl
  · rename_i value other h
    rw [h]
    cases value with
    | list children => exact absurd rfl (other children)
    | _ => rfl

/-! ## The run over chapters -/

/-- The chapters among what a visit comes to. -/
def chaptersOf (stops : List Stop) : List Fields :=
  stops.filterMap fun
    | .chapter fields => some fields
    | .malformed _ => none

/-- The run over what a visit comes to: chapters are compiled one after the other, and what they are to
contain is returned. -/
def runStops (shop : Shop ε) : List Stop → World ε → Except Fault (List Text) × World ε
  | [], world => (.ok [], world)
  | .malformed fault :: _, world => (.error (.shape fault), world)
  | .chapter fields :: rest, world =>
    match compileChapter shop (.object fields) world with
    | (.error fault, world) => (.error fault, world)
    | (.ok content, world) =>
      match runStops shop rest world with
      | (.error fault, world) => (.error fault, world)
      | (.ok contents, world) => (.ok (content :: contents), world)

/-- How a visit comes out if the run over its stops comes out in some way: both end with the same fault, or
the visit returns what is visited with the contents of the run. -/
inductive Visited {α : Type} (stops : List Stop) (filled : (Fields → Text) → α) :
    Except Fault (List Text) × World ε → Except Fault α × World ε → Prop
  | broken (fault : Fault) (world : World ε) :
      Visited stops filled (.error fault, world) (.error fault, world)
  | done (contents : List Text) (visited : α) (world : World ε)
      (same : ∀ content, contents = (chaptersOf stops).map content → visited = filled content) :
      Visited stops filled (.ok contents, world) (.ok visited, world)

/-- A run that ends well has a content for each chapter. -/
theorem length_of_runStops {shop : Shop ε} {stops : List Stop} :
    ∀ {world after : World ε} {contents : List Text}, runStops shop stops world = (.ok contents, after) →
      contents.length = (chaptersOf stops).length := by
  induction stops with
  | nil =>
    intro world after contents ran
    obtain rfl := Except.ok.inj (Prod.mk.inj ran).1
    rfl
  | cons stop rest ih =>
    intro world after contents ran
    cases stop with
    | malformed fault => exact absurd (Prod.mk.inj ran).1 (by simp)
    | chapter fields =>
      rw [runStops] at ran
      split at ran
      · exact absurd (Prod.mk.inj ran).1 (by simp)
      · split at ran
        · exact absurd (Prod.mk.inj ran).1 (by simp)
        · rename_i rest_eq
          obtain rfl := Except.ok.inj (Prod.mk.inj ran).1
          exact congrArg Nat.succ (ih rest_eq)

/-- A run over more stops goes on where the run over the first ones ends. -/
theorem runStops_append (shop : Shop ε) (first rest : List Stop) (world : World ε) :
    runStops shop (first ++ rest) world =
      match runStops shop first world with
      | (.error fault, world) => (.error fault, world)
      | (.ok contents, world) =>
        match runStops shop rest world with
        | (.error fault, world) => (.error fault, world)
        | (.ok others, world) => (.ok (contents ++ others), world) := by
  induction first generalizing world with
  | nil =>
    rw [List.nil_append, runStops]
    simp only [List.nil_append]
    split <;> simp_all
  | cons stop first ih =>
    cases stop with
    | malformed fault => rfl
    | chapter fields =>
      rw [List.cons_append, runStops, runStops]
      rcases compileChapter shop (.object fields) world with ⟨fault | content, between⟩
      · rfl
      simp only [ih]
      rcases runStops shop first between with ⟨fault | contents, after⟩
      · rfl
      simp only
      rcases runStops shop rest after with ⟨fault | others, last⟩ <;> rfl

/-- Nothing is compiled on a visit without stops. -/
theorem Visited.unchanged {α : Type} (shop : Shop ε) (value : α) (world : World ε) :
    Visited [] (fun _ => value) (runStops shop [] world) (.ok value, world) :=
  .done _ _ _ fun _ _ => rfl

/-- A section that is no object stays as it is, if it can be passed over. -/
theorem visited_other (shop : Shop ε) {item : Json} (other : ∀ fields, item = .object fields → False)
    (world : World ε) :
    Visited (stops item) (withContents · item) (runStops shop (stops item) world)
      (visit shop item world) := by
  have same (content : Fields → Text) : withContents content item = item :=
    withContents.eq_2 content item other
  rw [visit.eq_2 shop item world other, stops.eq_2 item other]
  simp only [same]
  split
  · exact .unchanged shop item world
  · exact .broken _ _

mutual

/-- A visit to a section is the run over its stops, with the contents put in their places. -/
theorem visited_visit (shop : Shop ε) (item : Json) (world : World ε) :
    Visited (stops item) (withContents · item) (runStops shop (stops item) world)
      (visit shop item world) := by
  cases item with
  | object fields =>
    simp only [stops_object, withContents_object, visit_object]
    cases chapter_eq : Json.lookup chapterKey fields with
    | some value =>
      cases value with
      | object chapter =>
        have smaller := Json.sizeOf_lt_of_lookup chapter_eq
        simp only [runStops]
        rcases compileChapter shop (.object chapter) world with ⟨fault | text, between⟩
        · exact .broken fault between
        have below := visited_visitBelow shop chapter between
        simp only
        generalize runStops shop (stopsBelow chapter) between = ran at below ⊢
        generalize visitBelow shop chapter between = visited at below ⊢
        cases below with
        | broken fault after => exact .broken fault after
        | done contents visited after same =>
          refine .done _ _ _ fun content listed => ?_
          have first : text = content chapter := (List.cons.inj listed).1
          have others : contents = (chaptersOf (stopsBelow chapter)).map content := (List.cons.inj listed).2
          rw [first, same content others]
      | _ => exact .broken _ _
    | none =>
      simp only
      cases part_eq : Json.lookup partKey fields with
      | some value =>
        cases value with
        | object part =>
          have smaller := Json.sizeOf_lt_of_lookup part_eq
          have below := visited_visitBelow shop part world
          simp only
          generalize runStops shop (stopsBelow part) world = ran at below ⊢
          generalize visitBelow shop part world = visited at below ⊢
          cases below with
          | broken fault after => exact .broken fault after
          | done contents visited after same =>
            exact .done _ _ _ fun content listed => by rw [same content listed]
        | _ => exact .unchanged shop _ world
      | none => exact .unchanged shop _ world
  | _ => exact visited_other shop (fun _ same => Json.noConfusion same) world
termination_by sizeOf item
decreasing_by
  all_goals
    simp at smaller ⊢
    omega

/-- The sections below a chapter or a part are visited as a run over their chapters. -/
theorem visited_visitBelow (shop : Shop ε) (fields : Fields) (world : World ε) :
    Visited (stopsBelow fields) (withContentsBelow · fields) (runStops shop (stopsBelow fields) world)
      (visitBelow shop fields world) := by
  simp only [stopsBelow_eq, withContentsBelow_eq, visitBelow_eq]
  cases children_eq : Json.lookup childrenKey fields with
  | some value =>
    cases value with
    | list children =>
      have smaller := Json.sizeOf_lt_of_lookup children_eq
      have all := visited_visitAll shop children world
      simp only
      generalize runStops shop (stopsAll children) world = ran at all ⊢
      generalize visitAll shop children world = visited at all ⊢
      cases all with
      | broken fault after => exact .broken fault after
      | done contents visited after same =>
        exact .done _ _ _ fun content listed => by rw [same content listed]
    | _ =>
      simp only
      split
      · exact .unchanged shop fields world
      · exact .broken _ _
  | none => exact .unchanged shop fields world
termination_by sizeOf fields
decreasing_by
  all_goals
    simp at smaller
    omega

/-- Sections are visited as a run over their chapters. -/
theorem visited_visitAll (shop : Shop ε) (sections : List Json) (world : World ε) :
    Visited (stopsAll sections) (withContentsAll · sections) (runStops shop (stopsAll sections) world)
      (visitAll shop sections world) := by
  cases sections with
  | nil =>
    rw [visitAll, stopsAll, runStops]
    refine .done _ _ _ fun content _ => ?_
    rw [withContentsAll]
  | cons first rest =>
    have one := visited_visit shop first world
    have length {contents : List Text} {after : World ε} :
        runStops shop (stops first) world = (.ok contents, after) →
          contents.length = (chaptersOf (stops first)).length := length_of_runStops
    rw [visitAll, stopsAll, runStops_append]
    generalize runStops shop (stops first) world = ran at one length ⊢
    generalize visit shop first world = visited at one ⊢
    cases one with
    | broken fault after => exact .broken fault after
    | done contents visited after same =>
      have others := visited_visitAll shop rest after
      simp only
      generalize runStops shop (stopsAll rest) after = ran at others ⊢
      generalize visitAll shop rest after = visited' at others ⊢
      cases others with
      | broken fault last => exact .broken fault last
      | done contents' visited' last same' =>
        refine .done _ _ _ fun content listed => ?_
        rw [chaptersOf, List.filterMap_append, List.map_append] at listed
        have split := List.append_inj listed (by rw [length rfl, List.length_map, chaptersOf])
        rw [withContentsAll, same content split.1, same' content split.2]
termination_by sizeOf sections

end

/-- The sections of a book are visited as a run over their chapters. -/
theorem visited_visitUnder (shop : Shop ε) (fields : Fields) (keys : List Text) (world : World ε) :
    Visited (stopsUnder fields keys) (fun content => .object (withContentsUnder content fields keys))
      (runStops shop (stopsUnder fields keys) world) (visitUnder shop fields world keys) := by
  induction keys with
  | nil => exact Visited.unchanged shop (Json.object fields) world
  | cons key keys ih =>
    simp only [stopsUnder, withContentsUnder, visitUnder]
    cases (Json.lookup key fields).filter fun value => !value.isNothing with
    | none => exact ih
    | some value =>
      cases value with
      | list sections =>
        have all := visited_visitAll shop sections world
        simp only
        generalize runStops shop (stopsAll sections) world = ran at all ⊢
        generalize visitAll shop sections world = visited at all ⊢
        cases all with
        | broken fault after => exact .broken fault after
        | done contents visited after same =>
          exact .done _ _ _ fun content listed => by rw [same content listed]
      | _ =>
        simp only
        split
        · exact .unchanged shop _ world
        · exact .broken _ _

/-- A visit to a book is the run over its chapters in the order of the book, with the contents put in their
places. -/
theorem visited_visitBook (shop : Shop ε) (book : Json) (world : World ε) :
    Visited (bookStops book) (bookWithContents · book) (runStops shop (bookStops book) world)
      (visitBook shop book world) := by
  cases book with
  | object fields => exact visited_visitUnder shop fields sectionKeys world
  | _ => exact .broken _ _

end TypstFences.Book
