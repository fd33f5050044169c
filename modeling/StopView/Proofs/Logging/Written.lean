import StopView.Proofs.Logging.Filter
import StopView.Proofs.Text.Trim

/-!
# Filters are read as they are written

A target is written with letters, numbers and the marks that join the names of modules.  A
part that consists of a target, an equals sign and a word is read as the directive for that
target, with the threshold that the word names.  Places in a part are counted in bytes, so
what is read depends on how many bytes stand in front of the equals sign.

A filter that is written as such parts between commas gives back its directives.
-/

namespace StopView

open Text

/-! ## Pieces by bytes -/

namespace FilterPart

/-- How many bytes characters take. -/
def byteSize : List Char → Nat
  | [] => 0
  | c :: rest => c.utf8Size + byteSize rest

theorem byteSize_append (front back : List Char) :
    byteSize (front ++ back) = byteSize front + byteSize back := by
  induction front with
  | nil => simp [byteSize]
  | cons c front ih => rw [List.cons_append, byteSize, byteSize, ih, Nat.add_assoc]

theorem takeBytes_append (front back : List Char) :
    takeBytes (byteSize front) (front ++ back) = front := by
  induction front with
  | nil => cases back <;> rfl
  | cons c front ih =>
      have some := c.utf8Size_pos
      rw [byteSize, List.cons_append, takeBytes, if_neg (by omega), Nat.add_sub_cancel_left,
        ih]

theorem dropBytes_append (front back : List Char) :
    dropBytes (byteSize front) (front ++ back) = back := by
  induction front with
  | nil => cases back <;> rfl
  | cons c front ih =>
      have some := c.utf8Size_pos
      rw [byteSize, List.cons_append, dropBytes, if_neg (by omega), Nat.add_sub_cancel_left,
        ih]

theorem piece_append (front back : List Char) :
    piece (front ++ back) 0 (byteSize front) = front := by
  rw [piece, takeBytes_append]
  cases front <;> rfl

/-! ## Steps of the reader -/

variable {text : List Char} {draft : Draft}

theorem steps_append (draft : Draft) (place : Nat) (front back : List Char) :
    draft.steps text place (front ++ back) =
      (draft.steps text place front).bind fun reached =>
        reached.steps text (place + byteSize front) back := by
  induction front generalizing draft place with
  | nil => simp [Draft.steps, byteSize]
  | cons c front ih =>
      simp only [List.cons_append, Draft.steps, ih, byteSize, Option.bind_assoc,
        Nat.add_assoc]

theorem steps_word (inWord : draft.stage = .word) (place : Nat) {chars : List Char}
    (plain : ∀ c ∈ chars, c ≠ '=' ∧ c ≠ '[') : draft.steps text place chars = some draft := by
  induction chars generalizing place with
  | nil => rfl
  | cons c chars ih =>
      obtain ⟨noSign, noBracket⟩ := plain c List.mem_cons_self
      have stays : draft.step text place c = some draft := by
        simp [Draft.step, inWord, noSign, noBracket]
      rw [Draft.steps, stays, Option.bind_some]
      exact ih _ fun other later => plain other (List.mem_cons_of_mem c later)

/-- Behind the equals sign all characters belong to the level. -/
theorem steps_level {start : Nat} (inLevel : draft.stage = .level start) (place : Nat)
    (chars : List Char) : draft.steps text place chars = some draft := by
  induction chars generalizing place with
  | nil => rfl
  | cons c chars ih =>
      have stays : draft.step text place c = some draft := by simp [Draft.step, inLevel]
      rw [Draft.steps, stays, Option.bind_some, ih]

/-! ## Targets -/

/-- Letters and numbers are no blanks: the two tables have no code point in common. -/
theorem isBlank_of_isAlphanumeric {c : Char} (letter : isAlphanumeric c = true) :
    isBlank c = false := by
  have apart : (blankSpans.all fun blank => alphanumericSpans.all fun letters =>
      decide (blank.2 < letters.1) || decide (letters.2 < blank.1)) = true := by
    decide +kernel
  obtain ⟨letters, listed, low, high⟩ := inSpans_eq_true_iff.mp letter
  rw [isBlank, Bool.eq_false_iff]
  intro blank
  obtain ⟨gap, listedToo, lowToo, highToo⟩ := inSpans_eq_true_iff.mp blank
  have other := List.all_eq_true.mp (List.all_eq_true.mp apart gap listedToo) letters listed
  simp only [Bool.or_eq_true, decide_eq_true_eq] at other
  omega

theorem isBlank_of_opens {c : Char} (begins : opens c = true) : isBlank c = false := by
  simp only [opens, Bool.or_eq_true, beq_iff_eq] at begins
  rcases begins with ((rfl | rfl) | rfl) | letter
  · decide
  · decide
  · decide
  · exact isBlank_of_isAlphanumeric letter

/-- What a part can begin with tells no pieces of it or of a filter apart. -/
theorem ne_of_opens {c mark : Char} (begins : opens c = true) (closes : opens mark = false) :
    c ≠ mark := by
  rintro rfl
  simp [begins] at closes

theorem opens_sign : opens '=' = false := by
  decide +kernel

theorem opens_bracket : opens '[' = false := by
  decide +kernel

theorem opens_comma : opens ',' = false := by
  decide +kernel

/-- A target as it is written in a part: characters with which a part can begin. -/
structure IsTarget (target : String) : Prop where
  filled : target ≠ ""
  opens : ∀ c ∈ target.toList, opens c = true

theorem steps_target {target : String} (isTarget : IsTarget target) :
    Draft.empty.steps text 0 target.toList = some { Draft.empty with stage := .word } := by
  obtain ⟨first, rest, eq⟩ := List.exists_cons_of_ne_nil fun none =>
    isTarget.filled (String.toList_eq_nil_iff.mp none)
  have each := isTarget.opens
  rw [eq] at each ⊢
  have begins := each first List.mem_cons_self
  have enters : Draft.empty.step text 0 first = some { Draft.empty with stage := .word } := by
    simp [Draft.step, Draft.empty, ne_of_opens begins opens_bracket, begins]
  rw [Draft.steps, enters, Option.bind_some]
  refine steps_word rfl _ fun c later => ?_
  have inside := each c (List.mem_cons_of_mem first later)
  exact ⟨ne_of_opens inside opens_sign, ne_of_opens inside opens_bracket⟩

/-! ## Parts -/

theorem parse?_target {target : String} (isTarget : IsTarget target) :
    parse? target = some (ofWord target) := by
  have solid : ∀ c ∈ target.toList, isBlank c = false := fun c listed =>
    isBlank_of_opens (isTarget.opens c listed)
  have trimmed : trimChars target.toList = target.toList := by
    rw [← toList_trim, trim_of_solid solid]
  simp [parse?, trimmed, steps_target isTarget]

/-- Trimming leaves a target and the sign behind it where they are. -/
theorem trimChars_target_append {target : String} (isTarget : IsTarget target)
    (back : List Char) :
    trimChars (target.toList ++ '=' :: back) = target.toList ++ '=' :: trimEndChars back := by
  obtain ⟨first, rest, eq⟩ := List.exists_cons_of_ne_nil fun none =>
    isTarget.filled (String.toList_eq_nil_iff.mp none)
  have front : isBlank first = false := isBlank_of_opens (isTarget.opens first (by simp [eq]))
  have sign : isBlank '=' = false := by decide
  rw [eq, trimChars, List.cons_append, List.dropWhile_cons_of_neg (by simp [front]),
    ← List.cons_append, trimEndChars_append_cons sign]

/-- A target, an equals sign and a word set the threshold that the word names. -/
theorem parse?_target_level {target word : String} (isTarget : IsTarget target)
    (filled : word ≠ "") :
    parse? (target ++ "=" ++ word) =
      (Threshold.parse? word).map fun threshold => .events ⟨target, none, threshold⟩ := by
  have written : (target ++ "=" ++ word).toList = target.toList ++ '=' :: word.toList := by simp
  have reached : Draft.empty.steps (target.toList ++ '=' :: word.toList) 0
      (target.toList ++ '=' :: trimEndChars word.toList) =
        some ⟨.level (byteSize target.toList + 1), target, false, none⟩ := by
    rw [steps_append, steps_target isTarget, Option.bind_some, Draft.steps]
    simp only [Draft.step, piece_append, Draft.empty, Nat.zero_add, if_true, Option.bind_some,
      String.ofList_toList]
    exact steps_level rfl _ _
  have level : dropBytes (byteSize target.toList + 1) (target.toList ++ '=' :: word.toList) =
      word.toList := by
    have size : byteSize (target.toList ++ ['=']) = byteSize target.toList + 1 := by
      rw [byteSize_append]
      rfl
    rw [List.append_cons target.toList, ← size, dropBytes_append]
  have some : word.toList.isEmpty = false := by simpa using filled
  simp only [parse?, written, trimChars_target_append isTarget, reached, Option.bind_eq_bind,
    Option.bind_some, level, some, String.ofList_toList]
  cases Threshold.parse? word <;> rfl

end FilterPart

/-! ## Filters -/

/-- The name of a threshold. -/
def Threshold.name : Threshold → String
  | none => "off"
  | some .error => "error"
  | some .warn => "warn"
  | some .info => "info"
  | some .debug => "debug"
  | some .trace => "trace"

theorem Threshold.parse?_name (threshold : Threshold) :
    Threshold.parse? threshold.name = some threshold := by
  rcases threshold with _ | level
  · decide +kernel
  · cases level <;> decide +kernel

/-- The name of a threshold is one piece of a filter. -/
theorem Threshold.name_solid (threshold : Threshold) :
    threshold.name ≠ "" ∧ ∀ c ∈ threshold.name.toList, c ≠ ',' := by
  have solid : threshold.name ≠ "" ∧ threshold.name.toList.all (· != ',') = true := by
    rcases threshold with _ | level
    · decide +kernel
    · cases level <;> decide +kernel
  exact ⟨solid.1, by simpa using solid.2⟩

/-- A directive without a field as a part of a filter. -/
def Directive.written (directive : Directive) : String :=
  directive.beginning ++ "=" ++ directive.threshold.name

namespace Filter

open FilterPart

/-- The parts of a filter. -/
def partsOf (text : String) : List (List Char) :=
  (pieces (· == ',') text.toList).filter fun word => !word.isEmpty

/-- A comma parts the filters on its sides. -/
theorem partsOf_append (first second : String) :
    partsOf (first ++ "," ++ second) = partsOf first ++ partsOf second := by
  have written : (first ++ "," ++ second).toList = first.toList ++ ',' :: second.toList := by simp
  simp only [partsOf, written, pieces_eq_splitOnP]
  rw [List.splitOnP_append_cons _ _ (by rfl), List.filter_append]

theorem partsOf_of_solid {text : String} (filled : text ≠ "")
    (solid : ∀ c ∈ text.toList, c ≠ ',') : partsOf text = [text.toList] := by
  rw [partsOf, pieces_eq_splitOnP, List.splitOnP_eq_singleton (by simpa using solid)]
  simp [filled]

theorem parse?_eq (text : String) :
    parse? text =
      ((partsOf text).mapM fun word => FilterPart.parse? (String.ofList word)).map fun parts =>
        ⟨parts.filterMap directive?⟩ :=
  rfl

/-- Filters with a comma in between are read as the directives of the first and then those
of the second. -/
theorem parse?_append (first second : String) :
    parse? (first ++ "," ++ second) =
      (parse? first).bind fun left =>
        (parse? second).map fun right => ⟨left.directives ++ right.directives⟩ := by
  simp only [parse?_eq, partsOf_append, List.mapM_append]
  cases (partsOf first).mapM fun word => FilterPart.parse? (String.ofList word) with
  | none => rfl
  | some left =>
      cases (partsOf second).mapM fun word => FilterPart.parse? (String.ofList word) with
      | none => rfl
      | some right => simp

/-- The part that a directive is written as gives the directive alone. -/
theorem parse?_written_one {directive : Directive} (isTarget : IsTarget directive.beginning)
    (plain : directive.field = none) : parse? directive.written = some ⟨[directive]⟩ := by
  obtain ⟨target, field, threshold⟩ := directive
  obtain rfl := plain
  obtain ⟨named, nameSolid⟩ := threshold.name_solid
  have noComma : ∀ c ∈ (Directive.written ⟨target, none, threshold⟩).toList, c ≠ ',' := by
    intro c listed
    rw [Directive.written, String.toList_append, String.toList_append, List.mem_append,
      List.mem_append] at listed
    rcases listed with (inTarget | sign) | inName
    · exact ne_of_opens (isTarget.opens c inTarget) opens_comma
    · obtain rfl : c = '=' := by simpa using sign
      decide
    · exact nameSolid c inName
  have filled : Directive.written ⟨target, none, threshold⟩ ≠ "" := by
    simp [Directive.written]
  have part : FilterPart.parse? (Directive.written ⟨target, none, threshold⟩) =
      some (.events ⟨target, none, threshold⟩) := by
    rw [Directive.written, parse?_target_level isTarget named, threshold.parse?_name]
    rfl
  rw [parse?_eq, partsOf_of_solid filled noComma]
  simp [part, directive?]

/-- A filter that is written from directives gives them back. -/
theorem parse?_written {directives : List Directive}
    (each : ∀ directive ∈ directives,
      IsTarget directive.beginning ∧ directive.field = none) :
    parse? (",".intercalate (directives.map Directive.written)) = some ⟨directives⟩ := by
  induction directives with
  | nil => rfl
  | cons first more ih =>
      obtain ⟨isTarget, plain⟩ := each first List.mem_cons_self
      have later := ih fun directive listed => each directive (List.mem_cons_of_mem first listed)
      cases more with
      | nil =>
          rw [List.map_singleton, String.intercalate_singleton, parse?_written_one isTarget plain]
      | cons second more =>
          rw [List.map_cons, List.map_cons, String.intercalate_cons_cons, ← List.map_cons,
            parse?_append, parse?_written_one isTarget plain, later]
          rfl

example :
    parse? "stop=debug,stop::view=off" =
      some ⟨[⟨"stop", none, some .debug⟩, ⟨"stop::view", none, none⟩]⟩ := by
  decide +kernel

end Filter

end StopView
