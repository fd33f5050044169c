import StopView.Logging.Pattern

/-!
# Patterns are read to their end

Whatever a part of the reader leaves is an end of the text that it was given, and every step
of the two loops takes at least one character.  So the number of steps that a loop may take
decides nothing once it exceeds the number of characters: what is a pattern is said by
`Completes`, in which no number of steps occurs.
-/

namespace StopView.Pattern

variable {mode : Mode} {chars rest : List Char}

/-! ## Answers -/

section Answers

variable {α : Type} {value found : α} {left : List Char} {condition : Prop} [Decidable condition]

theorem suffix_of_some (answered : some (value, left) = some (found, rest)) : rest <:+ left := by
  obtain ⟨-, rfl⟩ := Prod.mk.inj (Option.some.inj answered)
  exact List.suffix_refl _

theorem suffix_of_if
    (answered : (if condition then some (value, left) else none) = some (found, rest)) :
    rest <:+ left :=
  suffix_of_some (Option.ite_none_right_eq_some.mp answered).2

theorem suffix_of_unless
    (answered : (if condition then none else some (value, left)) = some (found, rest)) :
    rest <:+ left :=
  suffix_of_some (Option.ite_none_left_eq_some.mp answered).2

end Answers

/-! ## Blanks -/

theorem afterBlanks_suffix (inRemark : Bool) (chars : List Char) :
    afterBlanks inRemark chars <:+ chars := by
  induction chars generalizing inRemark with
  | nil => exact List.suffix_refl []
  | cons c chars ih =>
      have further (remark : Bool) : afterBlanks remark chars <:+ c :: chars :=
        (ih remark).trans (List.suffix_cons c chars)
      rw [afterBlanks]
      split
      · exact further _
      · split
        · exact further _
        · split
          · exact further _
          · exact List.suffix_refl _

theorem skip_suffix (mode : Mode) (chars : List Char) : mode.skip chars <:+ chars := by
  rw [Mode.skip]
  split
  · exact afterBlanks_suffix false chars
  · exact List.suffix_refl chars

/-- A character behind the blanks has been taken. -/
theorem suffix_of_skip_eq_cons {c : Char} (eq : mode.skip chars = c :: rest) :
    rest <:+ chars :=
  ((List.suffix_cons c rest).trans (eq ▸ List.suffix_refl _)).trans (skip_suffix mode chars)

theorem length_lt_of_skip_eq_cons {c : Char} (eq : mode.skip chars = c :: rest) :
    rest.length < chars.length := by
  have whole := (skip_suffix mode chars).length_le
  rw [eq, List.length_cons] at whole
  exact whole

/-! ## Escapes -/

theorem hexDigits?_suffix {count value code : Nat}
    (read : hexDigits? mode count value chars = some (code, rest)) : rest <:+ chars := by
  induction count generalizing value chars with
  | zero =>
      obtain ⟨rfl, rfl⟩ : value = code ∧ chars = rest := by simpa [hexDigits?] using read
      exact List.suffix_refl _
  | succ count ih =>
      rw [hexDigits?] at read
      split at read
      · cases read
      · rename_i c after eq
        obtain ⟨digit, -, further⟩ := Option.bind_eq_some_iff.mp read
        exact (ih further).trans (suffix_of_skip_eq_cons eq)

theorem codeEscape?_suffix {count : Nat} {escape : Escape}
    (read : codeEscape? mode count chars = some (escape, rest)) : rest <:+ chars := by
  obtain ⟨⟨code, after⟩, digits, checked⟩ := Option.bind_eq_some_iff.mp read
  exact (suffix_of_if checked).trans (hexDigits?_suffix digits)

theorem escape?_suffix {escape : Escape} (read : escape? mode chars = some (escape, rest)) :
    rest <:+ chars.tail := by
  cases chars with
  | nil => cases read
  | cons c chars => grind [escape?, List.suffix_refl, codeEscape?_suffix]

/-! ## Classes -/

/-- A member takes at least one character. -/
theorem member?_suffix {member : Member} (read : member? mode chars = some (member, rest)) :
    rest <:+ chars.tail := by
  rw [member?.eq_def] at read
  split at read
  · cases read
  · rename_i after
    obtain ⟨⟨escape, left⟩, inner, checked⟩ := Option.bind_eq_some_iff.mp read
    obtain ⟨found, -, checked⟩ := Option.bind_eq_some_iff.mp checked
    exact (suffix_of_if checked).trans ((escape?_suffix inner).trans (List.tail_suffix after))
  · exact suffix_of_if read

/-- So does a member or a range. -/
theorem range?_suffix (read : range? mode chars = some rest) : rest <:+ chars.tail := by
  obtain ⟨⟨first, after⟩, taken, read⟩ := Option.bind_eq_some_iff.mp read
  have front := member?_suffix taken
  have whole := (skip_suffix mode after).trans front
  simp only at read
  split at read
  · cases read
  · rename_i behind eq
    rw [eq] at whole
    split at read
    · obtain rfl := Option.some.inj read
      exact whole
    · obtain ⟨⟨last, left⟩, taken, checked⟩ := Option.bind_eq_some_iff.mp read
      obtain ⟨-, same⟩ := Option.ite_none_right_eq_some.mp checked
      obtain rfl := Option.some.inj same
      have second := ((member?_suffix taken).trans (List.tail_suffix _)).trans
        (skip_suffix mode behind)
      exact second.trans ((List.suffix_cons _ _).trans whole)
  · obtain rfl := Option.some.inj read
    exact whole

theorem namedClass?_suffix {isNegated : Bool}
    (read : namedClass? chars = some (isNegated, rest)) : rest <:+ chars := by
  rw [namedClass?.eq_def] at read
  split at read
  · rename_i after
    have behind (mark : Bool) : (if mark then after.drop 1 else after) <:+ ':' :: after := by
      split
      · exact (List.drop_suffix 1 after).trans (List.suffix_cons _ _)
      · exact List.suffix_cons _ _
    dsimp only at read
    split at read
    · rename_i left eq
      have closing : left <:+ ':' :: ']' :: left := List.suffix_append [':', ']'] left
      rw [← eq] at closing
      exact (suffix_of_if read).trans ((closing.trans (List.drop_suffix _ _)).trans (behind _))
    · cases read
  · cases read

theorem dashes_suffix (mode : Mode) (fuel : Nat) (chars : List Char) :
    (dashes mode fuel chars).2 <:+ chars := by
  induction fuel generalizing chars with
  | zero => exact List.suffix_refl _
  | succ fuel ih =>
      rw [dashes.eq_def]
      split
      · rename_i more after eq
        obtain rfl := Nat.succ.inj eq
        exact ((ih _).trans (skip_suffix mode after)).trans (List.suffix_cons _ _)
      · exact List.suffix_refl _

theorem openClass?_suffix {opened : OpenClass}
    (read : openClass? mode chars = some (opened, rest)) : rest <:+ chars := by
  unfold openClass? at read
  extract_lets text isNegated inner at read
  have part : inner <:+ chars := by
    have front : text <:+ chars := skip_suffix mode chars
    unfold inner
    split
    · exact ((skip_suffix mode _).trans (List.drop_suffix 1 text)).trans front
    · exact front
  have reached := (dashes_suffix mode inner.length inner).trans part
  generalize dashes mode inner.length inner = counted at read reached
  obtain ⟨count, behind⟩ := counted
  have further := ((skip_suffix mode _).trans (List.drop_suffix 1 behind)).trans reached
  grind

/-- What is read of a class does not depend on how many steps may be taken, as long as they
are more than its characters. -/
theorem classRest?_eq_of_length_lt {fuel more : Nat} (inner : OpenClass)
    (outer : List OpenClass) (enough : chars.length < fuel) (enoughToo : chars.length < more) :
    classRest? mode fuel inner outer chars = classRest? mode more inner outer chars := by
  induction fuel generalizing more inner outer chars with
  | zero => exact absurd enough (Nat.not_lt_zero _)
  | succ fuel ih =>
      obtain ⟨more, rfl⟩ : ∃ fewer, more = fewer + 1 := ⟨more - 1, by omega⟩
      -- Every step leaves less than was there before the blanks were dropped.
      have step {after : List Char} (inner : OpenClass) (outer : List OpenClass)
          (shorter : after.length < chars.length) :
          classRest? mode fuel inner outer after = classRest? mode more inner outer after :=
        ih inner outer (by omega) (by omega)
      have whole := (skip_suffix mode chars).length_le
      rw [classRest?, classRest?]
      generalize mode.skip chars = text at whole
      split
      · rfl
      · rename_i after
        simp only [List.length_cons] at whole
        dsimp only
        split
        · rename_i negated left named
          have shorter := (namedClass?_suffix named).length_le
          rw [step _ _ (by omega)]
        · cases opened : openClass? mode after with
          | none => rfl
          | some found =>
              have shorter := (openClass?_suffix opened).length_le
              exact step _ _ (by omega)
      · rename_i after
        simp only [List.length_cons] at whole
        cases outer with
        | nil => rfl
        | cons around outer => exact step _ _ (by omega)
      · simp only [List.length_cons] at whole
        exact step _ _ (by omega)
      · simp only [List.length_cons] at whole
        exact step _ _ (by omega)
      · simp only [List.length_cons] at whole
        exact step _ _ (by omega)
      · rename_i filled _ _ _ _ _
        cases taken : range? mode text with
        | none => rfl
        | some left =>
            have shorter := (range?_suffix taken).length_le
            have some : 0 < text.length := List.length_pos_iff.mpr filled
            rw [List.length_tail] at shorter
            exact step _ _ (by omega)

theorem classRest?_suffix {fuel height : Nat} {inner : OpenClass} {outer : List OpenClass}
    (read : classRest? mode fuel inner outer chars = some (height, rest)) : rest <:+ chars := by
  induction fuel generalizing inner outer chars with
  | zero => cases read
  | succ fuel ih =>
      refine List.IsSuffix.trans ?_ (skip_suffix mode chars)
      rw [classRest?] at read
      generalize mode.skip chars = text at read
      split at read
      · cases read
      · rename_i after
        refine List.IsSuffix.trans ?_ (List.suffix_cons '[' after)
        split at read
        · rename_i negated left named
          obtain ⟨-, further⟩ := Option.ite_none_right_eq_some.mp read
          exact (ih further).trans (namedClass?_suffix named)
        · obtain ⟨⟨next, left⟩, opened, further⟩ := Option.bind_eq_some_iff.mp read
          exact (ih further).trans (openClass?_suffix opened)
      · rename_i after
        refine List.IsSuffix.trans ?_ (List.suffix_cons ']' after)
        split at read
        · exact suffix_of_some read
        · exact ih read
      · exact (ih read).trans (List.suffix_append ['&', '&'] _)
      · exact (ih read).trans (List.suffix_append ['-', '-'] _)
      · exact (ih read).trans (List.suffix_append ['~', '~'] _)
      · obtain ⟨left, taken, further⟩ := Option.bind_eq_some_iff.mp read
        exact ((ih further).trans (range?_suffix taken)).trans (List.tail_suffix _)

/-- A class is read alike with all numbers of steps that are more than its characters. -/
theorem class?_eq_of_length_lt {fuel : Nat} (enough : chars.length < fuel) :
    class? mode chars =
      (openClass? mode chars).bind fun (inner, rest) => classRest? mode fuel inner [] rest := by
  rw [class?]
  cases opened : openClass? mode chars with
  | none => rfl
  | some found =>
      have shorter := (openClass?_suffix opened).length_le
      exact classRest?_eq_of_length_lt _ _ (by omega) (by omega)

theorem class?_suffix {height : Nat} (read : class? mode chars = some (height, rest)) :
    rest <:+ chars := by
  obtain ⟨⟨inner, after⟩, opened, read⟩ := Option.bind_eq_some_iff.mp read
  exact (classRest?_suffix read).trans (openClass?_suffix opened)

/-! ## Groups -/

theorem switch?_suffix {seen : List Char} {switched : Mode}
    (read : switch? mode seen chars = some (switched, rest)) : rest <:+ chars := by
  induction chars generalizing mode seen with
  | nil => cases read
  | cons c chars ih =>
      rw [switch?] at read
      split at read
      · exact suffix_of_unless read
      · obtain ⟨-, further⟩ := Option.ite_none_left_eq_some.mp read
        obtain ⟨-, further⟩ := Option.ite_none_right_eq_some.mp further
        exact (ih further).trans (List.suffix_cons c chars)

theorem groupName?_suffix {name : List Char} (read : groupName? chars = some (name, rest)) :
    rest <:+ chars := by
  unfold groupName? at read
  extract_lets found at read
  split at read
  · rename_i after _ eq
    have closing := List.suffix_cons '>' after
    rw [← eq] at closing
    exact (suffix_of_if read).trans (closing.trans (List.drop_suffix _ _))
  · cases read

theorem openingFrom?_suffix {opening : Opening}
    (read : openingFrom? mode chars = some (opening, rest)) : rest <:+ chars := by
  have named {left : List Char} {wrap : List Char × List Char → Opening × List Char}
      (keeps : ∀ found, (wrap found).2 = found.2)
      (taken : (groupName? left).map wrap = some (opening, rest)) : rest <:+ left := by
    obtain ⟨found, named, same⟩ := Option.map_eq_some_iff.mp taken
    have left : found.2 = rest := (keeps found).symm.trans (congrArg Prod.snd same)
    exact left ▸ groupName?_suffix named
  rw [openingFrom?.eq_def] at read
  split at read
  · rename_i after
    exact (named (fun _ => rfl) read).trans (List.suffix_append ['?', 'P', '<'] after)
  · rename_i after
    exact (named (fun _ => rfl) read).trans (List.suffix_append ['?', '<'] after)
  · cases read
  · rename_i after _ _ _
    obtain ⟨⟨switched, left⟩, taken, read⟩ := Option.bind_eq_some_iff.mp read
    have part := (switch?_suffix taken).trans (List.suffix_cons '?' after)
    split at read
    · rename_i after eq
      obtain ⟨-, rfl⟩ := Prod.mk.inj eq
      exact (suffix_of_some read).trans ((List.suffix_cons _ _).trans part)
    · rename_i after _ eq
      obtain ⟨-, rfl⟩ := Prod.mk.inj eq
      exact (suffix_of_some read).trans ((List.suffix_cons _ _).trans part)
    · cases read
  · exact suffix_of_some read

theorem opening?_suffix {opening : Opening} (read : opening? mode chars = some (opening, rest)) :
    rest <:+ chars :=
  (openingFrom?_suffix read).trans (skip_suffix mode chars)

/-! ## Whole patterns -/

namespace Progress

variable {progress next : Progress} {c : Char}

theorem openParenthesis?_suffix (read : progress.openParenthesis? chars = some (next, rest)) :
    rest <:+ chars := by
  obtain ⟨⟨opening, left⟩, opened, read⟩ := Option.bind_eq_some_iff.mp read
  have part := opening?_suffix opened
  split at read
  · rename_i eq
    obtain ⟨-, rfl⟩ := Prod.mk.inj eq
    exact (suffix_of_some read).trans part
  · rename_i eq
    obtain ⟨-, rfl⟩ := Prod.mk.inj eq
    exact (suffix_of_unless read).trans part

theorem plain?_suffix {allowed : Bool}
    (read : progress.plain? allowed chars = some (next, rest)) : rest <:+ chars :=
  suffix_of_if read

/-- A step leaves an end of what stands behind the character that it takes. -/
theorem step?_suffix {after : List Char} (read : progress.step? c rest = some (next, after)) :
    after <:+ rest := by
  rw [step?] at read
  split at read
  · exact openParenthesis?_suffix read
  split at read
  · obtain ⟨closed, -, same⟩ := Option.map_eq_some_iff.mp read
    obtain ⟨-, rfl⟩ := Prod.mk.inj same
    exact List.suffix_refl _
  split at read
  · exact suffix_of_some read
  split at read
  · obtain ⟨⟨height, left⟩, closed, same⟩ := Option.map_eq_some_iff.mp read
    obtain ⟨-, rfl⟩ := Prod.mk.inj same
    exact class?_suffix closed
  split at read
  · obtain ⟨inner, -, same⟩ := Option.map_eq_some_iff.mp read
    obtain ⟨-, rfl⟩ := Prod.mk.inj same
    split
    · exact List.drop_suffix 1 rest
    · exact List.suffix_refl _
  split at read
  · cases read
  split at read
  · obtain ⟨⟨escape, left⟩, taken, read⟩ := Option.bind_eq_some_iff.mp read
    exact ((plain?_suffix read).trans (escape?_suffix taken)).trans (List.tail_suffix rest)
  split at read
  · exact plain?_suffix read
  split at read
  · exact plain?_suffix read
  · exact plain?_suffix read

/-- A pattern can be read to its end, by steps from one character that counts to the next. -/
inductive Completes : Progress → List Char → Prop
  | done {progress : Progress} {chars : List Char} (ended : progress.mode.skip chars = [])
      (complete : progress.isComplete = true) : Completes progress chars
  | step {progress next : Progress} {chars rest after : List Char} {c : Char}
      (counts : progress.mode.skip chars = c :: rest)
      (taken : progress.step? c rest = some (next, after)) (further : Completes next after) :
      Completes progress chars

/-- With more steps than characters, the rest of a pattern is well formed exactly if it can
be read to its end. -/
theorem isRest_iff_completes {fuel : Nat} (enough : chars.length < fuel) :
    isRest fuel progress chars = true ↔ progress.Completes chars := by
  induction fuel generalizing progress chars with
  | zero => exact absurd enough (Nat.not_lt_zero _)
  | succ fuel ih =>
      rw [isRest]
      split
      · rename_i ended
        refine ⟨.done ended, fun completes => ?_⟩
        cases completes with
        | done _ complete => exact complete
        | step counts => cases ended.symm.trans counts
      · rename_i c rest counts
        have shorter := length_lt_of_skip_eq_cons counts
        constructor
        · intro well
          split at well
          · rename_i next after taken
            have part := (step?_suffix taken).length_le
            exact .step counts taken ((ih (by omega)).mp well)
          · cases well
        · rintro (⟨ended⟩ | ⟨same, taken, further⟩)
          · cases ended.symm.trans counts
          · obtain ⟨rfl, rfl⟩ := List.cons.inj (counts.symm.trans same)
            have part := (step?_suffix taken).length_le
            rw [taken]
            exact (ih (by omega)).mpr further

end Progress

end StopView.Pattern

namespace StopView

/-- A text is a pattern exactly if it can be read to its end. -/
theorem isPattern_iff_completes (text : String) :
    isPattern text = true ↔ Pattern.Progress.Completes .initial text.toList :=
  Pattern.Progress.isRest_iff_completes (by rw [String.length_toList]; exact Nat.lt_succ_self _)

example : isPattern "a(b|[^c])*" = true ∧ isPattern "a(b" = false := by
  decide +kernel

end StopView
