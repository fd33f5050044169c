import Mathlib.Data.List.Chain
import Mathlib.Data.List.Nodup
import Mathlib.Order.Bounds.Defs
import StopView.Chain

/-!
# Where a pointer chain ends

Reading memory again and again gives a sequence of words, which ends where memory cannot be
read and otherwise goes on for ever.  A chain shows as much of this sequence as it may, as
long as no word comes twice.
-/

namespace StopView

/-! ## Walks through memory -/

/-- What a walk through memory comes to, past the words that were seen before.  Each word is
read from the one in front of it, and none comes twice.  The walk has reached its limit, or
else nothing new follows the last word: memory cannot be read there, or it holds a word to
turn back to. -/
structure ChainEnd.Follows (read : UInt64 → Option UInt64) (limit : Nat) (seen : List UInt64)
    (word : UInt64) (chain : ChainEnd) : Prop where
  linked : (word :: chain.words).IsChain fun here next => read here = some next
  fresh : (chain.words.reverse ++ seen).Nodup
  ends : chain.words.length = limit ∧ chain.back = none ∨
    chain.words.length < limit ∧
      chain.back = read ((word :: chain.words).getLast (List.cons_ne_nil _ _)) ∧
      ∀ next, chain.back = some next → next ∈ chain.words.reverse ++ seen

variable {read : UInt64 → Option UInt64} {limit : Nat} {seen : List UInt64} {word : UInt64}

theorem ChainEnd.Follows.cons {next : UInt64} {further : ChainEnd} (here : read word = some next)
    (follows : further.Follows read limit (next :: seen) next) :
    (ChainEnd.mk (next :: further.words) further.back).Follows read (limit + 1) seen word := by
  have order : (next :: further.words).reverse ++ seen =
      further.words.reverse ++ next :: seen := by
    rw [List.reverse_cons, List.append_assoc, List.singleton_append]
  constructor
  · exact List.isChain_cons_cons.mpr ⟨here, follows.linked⟩
  · rw [order]
    exact follows.fresh
  · rw [order]
    rcases follows.ends with ⟨full, none⟩ | ⟨short, back, known⟩
    · exact .inl ⟨congrArg (· + 1) full, none⟩
    · exact .inr ⟨Nat.succ_lt_succ short, back, known⟩

/-- Memory is walked through up to a limit, or to where nothing new follows. -/
theorem follows_followChain (limit : Nat) (apart : seen.Nodup) (word : UInt64) :
    (followChain read limit seen word).Follows read limit seen word := by
  induction limit generalizing seen word with
  | zero => exact ⟨List.isChain_singleton _, apart, .inl ⟨rfl, rfl⟩⟩
  | succ limit ih =>
      rw [followChain]
      cases here : read word with
      | none =>
          refine ⟨List.isChain_singleton _, apart, .inr ⟨limit.succ_pos, here.symm, ?_⟩⟩
          rintro _ ⟨⟩
      | some next =>
          by_cases known : next ∈ seen
          · simp only [known, if_true]
            refine ⟨List.isChain_singleton _, apart, .inr ⟨limit.succ_pos, here.symm, ?_⟩⟩
            rintro _ ⟨⟩
            exact known
          · simp only [known, if_false]
            exact (ih (List.nodup_cons.mpr ⟨known, apart⟩) next).cons here

-- The word behind the third one is the second one again.
example : followChain (fun word => some (if word = 3 then 2 else word + 1)) 5 [1] 1 =
    ⟨[2, 3], some 2⟩ :=
  rfl

/-! ## The sequence of words -/

/-- The word that a number of reads leads to. -/
def wordAfter? (read : UInt64 → Option UInt64) (value : UInt64) : Nat → Option UInt64
  | 0 => some value
  | count + 1 => (wordAfter? read value count).bind read

/-- A number of reads succeed, and no word comes twice on the way. -/
structure RunsApart (read : UInt64 → Option UInt64) (value : UInt64) (count : Nat) : Prop where
  readable : ∀ place ≤ count, (wordAfter? read value place).isSome
  apart : ∀ later ≤ count, ∀ earlier < later,
    wordAfter? read value earlier ≠ wordAfter? read value later

theorem getElem?_eq_wordAfter? {value : UInt64} {words : List UInt64}
    (linked : (value :: words).IsChain fun here next => read here = some next) {place : Nat}
    (inside : place ≤ words.length) : (value :: words)[place]? = wordAfter? read value place := by
  induction place with
  | zero => rfl
  | succ place ih =>
      have here := ih (by omega)
      have longer : place + 1 < (value :: words).length := Nat.succ_lt_succ inside
      rw [List.getElem?_eq_getElem (by omega)] at here
      rw [wordAfter?, ← here, List.getElem?_eq_getElem longer, Option.bind_some]
      exact (List.isChain_iff_getElem.mp linked place longer).symm

theorem wordAfter?_length_succ {value : UInt64} {words : List UInt64}
    (linked : (value :: words).IsChain fun here next => read here = some next) :
    wordAfter? read value (words.length + 1) =
      read ((value :: words).getLast (List.cons_ne_nil _ _)) := by
  have last : some ((value :: words).getLast (List.cons_ne_nil _ _)) =
      wordAfter? read value words.length := by
    rw [← getElem?_eq_wordAfter? linked (Nat.le_refl _), ← List.getLast?_eq_some_getLast,
      List.getLast?_eq_getElem?]
    rfl
  rw [wordAfter?, ← last, Option.bind_some]

/-- As many reads run apart as there are linked words of which none comes twice. -/
theorem runsApart_of_linked {value : UInt64} {words : List UInt64}
    (linked : (value :: words).IsChain fun here next => read here = some next)
    (apart : (value :: words).Nodup) : RunsApart read value words.length := by
  constructor
  · intro place inside
    rw [← getElem?_eq_wordAfter? linked inside,
      List.getElem?_eq_getElem (Nat.lt_succ_of_le inside), Option.isSome_some]
  · intro later inside earlier before
    rw [← getElem?_eq_wordAfter? linked inside,
      ← getElem?_eq_wordAfter? linked (before.le.trans inside)]
    exact List.nodup_iff_getElem?_ne_getElem?.mp apart earlier later before
      (Nat.lt_succ_of_le inside)

namespace ChainEnd.Follows

variable {value : UInt64} {chain : ChainEnd}
  (follows : chain.Follows read limit [value] value)

include follows

theorem nodup : (value :: chain.words).Nodup := by
  have fresh := follows.fresh
  rwa [← List.reverse_singleton, ← List.reverse_append, List.nodup_reverse] at fresh

/-- A chain turns back to a word that it holds, if its limit allows a further read and this
gives such a word. -/
theorem back_eq_some_iff (word : UInt64) :
    chain.back = some word ↔
      chain.words.length < limit ∧
        wordAfter? read value (chain.words.length + 1) = some word ∧
        word ∈ value :: chain.words := by
  have order : ∀ other, other ∈ chain.words.reverse ++ [value] ↔ other ∈ value :: chain.words := by
    simp [or_comm]
  rw [wordAfter?_length_succ follows.linked]
  rcases follows.ends with ⟨full, none⟩ | ⟨short, back, known⟩
  · simp [full, none]
  · rw [← back]
    constructor
    · intro turned
      exact ⟨short, turned, (order word).mp (known word turned)⟩
    · exact fun turned => turned.2.1

/-- A chain is as long as the words stay apart within its limit. -/
theorem isGreatest_length :
    IsGreatest {count | count ≤ limit ∧ RunsApart read value count} chain.words.length := by
  constructor
  · have short : chain.words.length ≤ limit := by
      rcases follows.ends with ⟨full, -⟩ | ⟨short, -⟩ <;> omega
    exact ⟨short, runsApart_of_linked follows.linked follows.nodup⟩
  · rintro count ⟨allowed, runs⟩
    by_contra longer
    have next : chain.words.length + 1 ≤ count := by omega
    -- A read behind the last word would give a word that is there already.
    obtain ⟨word, reached⟩ := Option.isSome_iff_exists.mp (runs.readable _ next)
    have back : chain.back = some word := by
      rw [wordAfter?_length_succ follows.linked] at reached
      rcases follows.ends with ⟨full, -⟩ | ⟨-, back, -⟩
      · omega
      · rw [back, reached]
    have known := ((follows.back_eq_some_iff word).mp back).2.2
    obtain ⟨place, inside, found⟩ := List.getElem_of_mem known
    have earlier : wordAfter? read value place = some word := by
      rw [← getElem?_eq_wordAfter? follows.linked (Nat.le_of_lt_succ inside),
        List.getElem?_eq_getElem inside, found]
    exact runs.apart _ next place inside (earlier.trans reached.symm)

end ChainEnd.Follows

/-! ## The main result -/

namespace Inspector

theorem describeWord_eq (inspector : Inspector) (palette : Palette) (word : UInt64) :
    describeWord inspector palette word =
      palette.paint .pointer (hex word.toNat) ++
        ((inspector.symbolAt ⟨word⟩).map fun symbol =>
          " (" ++ palette.paint .symbol symbol ++ ")").getD "" := by
  rw [describeWord]
  cases inspector.symbolAt ⟨word⟩ with
  | none => exact String.append_empty.symm
  | some symbol => simp only [Option.map_some, Option.getD_some, String.append_assoc]

/-- A chain is shown as its words with marks between them, and with a reference back behind
them, if it has one. -/
theorem describeChain_eq (inspector : Inspector) (palette : Palette) (value : UInt64) :
    let chain := followChain inspector.wordAt? chainLimit [value] value
    describeChain inspector palette value =
      " —▸ ".intercalate ((value :: chain.words).map fun word =>
        palette.paint .pointer (hex word.toNat) ++
          ((inspector.symbolAt ⟨word⟩).map fun symbol =>
            " (" ++ palette.paint .symbol symbol ++ ")").getD "") ++
        (chain.back.map fun word => " ◂— " ++ palette.paint .pointer (hex word.toNat)).getD "" := by
  dsimp only [describeChain]
  rw [funext (describeWord_eq inspector palette)]
  cases (followChain inspector.wordAt? chainLimit [value] value).back <;> rfl

/-- A chain shows a value and the words that follow it in memory, each with its own symbol, up
to the last one for which memory can be read and no word has come twice, but no more than five
of them.  A reference back ends it exactly if there are fewer and what is read at the last one
is among the words shown; so no further word is ever shown beside it. -/
theorem chain_shows_words_that_run_apart (inspector : Inspector) (palette : Palette)
    (value : UInt64) :
    let read := fun word : UInt64 => (inspector.readWord ⟨word⟩).toOption
    ∃ (last : Nat) (words : List UInt64) (back : Option UInt64),
      IsGreatest {count | count ≤ 5 ∧ RunsApart read value count} last ∧
        words.length = last + 1 ∧
        (∀ place ≤ last, words[place]? = wordAfter? read value place) ∧
        (∀ word, back = some word ↔
          last < 5 ∧ wordAfter? read value (last + 1) = some word ∧ word ∈ words) ∧
        describeChain inspector palette value =
          " —▸ ".intercalate (words.map fun word =>
            palette.paint .pointer (hex word.toNat) ++
              ((inspector.symbolAt ⟨word⟩).map fun symbol =>
                " (" ++ palette.paint .symbol symbol ++ ")").getD "") ++
          (back.map fun word => " ◂— " ++ palette.paint .pointer (hex word.toNat)).getD "" := by
  intro read
  let chain := followChain read chainLimit [value] value
  have follows : chain.Follows read chainLimit [value] value :=
    follows_followChain chainLimit (List.nodup_singleton value) value
  use chain.words.length, value :: chain.words, chain.back
  constructor
  · exact follows.isGreatest_length
  constructor
  · rfl
  constructor
  · intro place inside
    exact getElem?_eq_wordAfter? follows.linked inside
  constructor
  · exact follows.back_eq_some_iff
  · exact describeChain_eq inspector palette value

end Inspector

end StopView
