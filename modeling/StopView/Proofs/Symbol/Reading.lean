import StopView.Proofs.Symbol.Hashed
import StopView.Symbol.Cursor

/-!
# Reading without escapes

A step that may fail keeps an invariant if the invariant holds after it whenever it held
before.  The steps of reading a name keep the name free of escapes from the cursor on, and
what they read out of it is free of them.
-/

namespace StopView.Symbol

section Keeps

variable {σ ε α β : Type} {inv : σ → Prop} {bad : ε → Prop}

/-- A step keeps an invariant, gives values of one kind only, and fails for reasons of one
kind only. -/
def Keeps (inv : σ → Prop) (bad : ε → Prop) (step : StateT σ (Except ε) α)
    (post : α → Prop) : Prop :=
  ∀ state, inv state →
    match step.run state with
    | .ok (value, after) => post value ∧ inv after
    | .error cause => bad cause

namespace Keeps

variable {post : α → Prop} {next : β → Prop}

theorem of_pure {value : α} (here : post value) :
    Keeps inv bad (pure value : StateT σ (Except ε) α) post :=
  fun _ now => ⟨here, now⟩

theorem of_throw {cause : ε} (here : bad cause) :
    Keeps inv bad (throw cause : StateT σ (Except ε) α) post :=
  fun _ _ => here

theorem of_get : Keeps inv bad (get : StateT σ (Except ε) σ) inv :=
  fun _ now => ⟨now, now⟩

theorem of_set {state : σ} (now : inv state) :
    Keeps inv bad (set state : StateT σ (Except ε) PUnit) fun _ => True :=
  fun _ _ => ⟨trivial, now⟩

theorem of_modify {f : σ → σ} (each : ∀ state, inv state → inv (f state)) :
    Keeps inv bad (modify f : StateT σ (Except ε) PUnit) fun _ => True :=
  fun state now => ⟨trivial, each state now⟩

/-- One step after the other. -/
theorem bind {first : StateT σ (Except ε) α} {second : α → StateT σ (Except ε) β}
    (here : Keeps inv bad first post)
    (there : ∀ value, post value → Keeps inv bad (second value) next) :
    Keeps inv bad (first >>= second) next := by
  intro state now
  have after := here state now
  change match (first.run state >>= fun found => (second found.1).run found.2) with
    | .ok (value, after) => next value ∧ inv after
    | .error cause => bad cause
  cases ran : first.run state with
  | error cause =>
      rw [ran] at after
      exact after
  | ok found =>
      rcases found with ⟨value, middle⟩
      rw [ran] at after
      exact there value after.1 middle after.2

end Keeps

end Keeps

/-! ## Readers -/

open Text

/-- A reader takes out of a name without escapes what satisfies a condition, and leaves the
rest without escapes. -/
abbrev Reader.Takes {α : Type} (reader : Reader α) (post : α → Prop) : Prop :=
  Keeps (fun cursor : Cursor => NoEscape cursor.rest) (fun _ => True) reader post

/-- An identifier without escapes. -/
structure Ident.EscapeFree (ident : Ident) : Prop where
  ascii : NoEscape ident.ascii
  punycode : NoEscape ident.punycode

namespace Reader

theorem takes_skip (count : Nat) : (skip count).Takes fun _ => True :=
  .of_modify fun _ now => now.of_subset (List.drop_subset _ _)

theorem takes_enter : enter.Takes fun _ => True := by
  apply Keeps.bind .of_get
  intro cursor now
  split
  · exact .of_set now
  · exact .of_throw trivial

theorem takes_next : next.Takes fun c => c ≠ escape := by
  apply Keeps.bind .of_get
  intro cursor now
  split
  · exact .of_throw trivial
  · rename_i c rest chars
    have here : c ≠ escape := now.of_mem (by rw [chars]; exact List.mem_cons_self)
    exact (takes_skip 1).bind fun _ _ => .of_pure here

theorem takes_eat (c : Char) : (eat c).Takes fun _ => True := by
  apply Keeps.bind .of_get
  intro cursor _
  split
  · exact (takes_skip 1).bind fun _ _ => .of_pure trivial
  · exact .of_pure trivial

theorem takes_hexNibbles : hexNibbles.Takes NoEscape := by
  apply Keeps.bind .of_get
  intro cursor now
  dsimp only
  split
  · exact (takes_skip _).bind fun _ _ =>
      .of_pure (now.of_subset (List.takeWhile_sublist _).subset)
  · exact .of_throw trivial

theorem takes_word (value : Nat) : (word value).Takes fun _ => True := by
  rw [word]
  split
  · exact .of_pure trivial
  · exact .of_throw trivial

theorem takes_value62 (digits : List Char) : (value62 digits).Takes fun _ => True := by
  have from_ : ∀ value, (digits.foldlM
      (fun value c => word (value * 62 + (digit62? c).getD 0)) value : Reader Nat).Takes
        fun _ => True := by
    induction digits with
    | nil => exact fun _ => .of_pure trivial
    | cons c rest ih => exact fun _ => (takes_word _).bind fun _ _ => ih _
  exact from_ 0

theorem takes_integer62 : integer62.Takes fun _ => True := by
  apply Keeps.bind .of_get
  intro cursor _
  dsimp only
  split
  · apply (takes_skip _).bind
    intro _ _
    split
    · exact .of_pure trivial
    · exact (takes_value62 _).bind fun _ _ => takes_word _
  · exact .of_throw trivial

theorem takes_taggedInteger62 (tag : Char) : (taggedInteger62 tag).Takes fun _ => True := by
  apply (takes_eat tag).bind
  intro eaten _
  split
  · exact takes_integer62.bind fun _ _ => takes_word _
  · exact .of_pure trivial

theorem takes_disambiguator : disambiguator.Takes fun _ => True :=
  takes_taggedInteger62 _

theorem takes_namespaceTag :
    namespaceTag.Takes fun tag => ∀ c, tag = some c → c ≠ escape := by
  apply takes_next.bind
  intro c here
  split
  · apply Keeps.of_pure
    rintro other ⟨⟩
    exact here
  · split
    · apply Keeps.of_pure
      rintro other ⟨⟩
    · exact .of_throw trivial

theorem takes_back {name : List Char} (free : NoEscape name) :
    (back name).Takes fun target => NoEscape target.rest := by
  apply Keeps.bind .of_get
  intro cursor _
  apply takes_integer62.bind
  intro place _
  dsimp only
  split
  · apply Keeps.bind .of_get
    intro here _
    split
    · exact .of_pure (free.of_subset (List.drop_subset _ _))
    · exact .of_throw trivial
  · exact .of_throw trivial

theorem takes_decimal : decimal.Takes fun _ => True := by
  apply Keeps.bind .of_get
  intro cursor _
  dsimp only
  split
  · exact .of_throw trivial
  · exact (takes_skip 1).bind fun _ _ => .of_pure trivial
  · exact (takes_skip _).bind fun _ _ => takes_word _

/-- Both parts around the last place of a character are parts of the list. -/
theorem subset_of_splitLast? {c : Char} {chars before after : List Char}
    (found : splitLast? c chars = some (before, after)) : before ⊆ chars ∧ after ⊆ chars := by
  rw [splitLast?] at found
  split at found
  · cases found
    constructor
    · exact List.take_subset _ _
    · intro other listed
      have kept := (List.takeWhile_sublist _).subset (List.mem_reverse.mp listed)
      exact List.mem_reverse.mp kept
  · contradiction

theorem takes_ident : ident.Takes Ident.EscapeFree := by
  apply (takes_eat 'u').bind
  intro encoded _
  apply takes_decimal.bind
  intro length _
  apply (takes_eat '_').bind
  intro _ _
  apply Keeps.bind .of_get
  intro cursor now
  dsimp only
  split
  · exact .of_throw trivial
  · apply (takes_skip _).bind
    intro _ _
    have letters : NoEscape (cursor.rest.take length) := now.of_subset (List.take_subset _ _)
    split
    · have halves : Ident.EscapeFree
          ⟨((splitLast? '_' (cursor.rest.take length)).getD ([], cursor.rest.take length)).1,
            ((splitLast? '_' (cursor.rest.take length)).getD ([], cursor.rest.take length)).2⟩ := by
        cases found : splitLast? '_' (cursor.rest.take length) with
        | none => exact ⟨.nil, letters⟩
        | some parts =>
            obtain ⟨before, after⟩ := subset_of_splitLast? found
            exact ⟨letters.of_subset before, letters.of_subset after⟩
      split
      · exact .of_throw trivial
      · exact .of_pure halves
    · exact .of_pure ⟨letters, .nil⟩

end Reader

end StopView.Symbol
