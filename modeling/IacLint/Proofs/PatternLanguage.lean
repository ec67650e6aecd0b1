import Mathlib
import IacLint.Text.Pattern

/-!
# What a pattern matches

`Pattern.run` lists the ways a pattern matches a prefix of a text, in the order a backtracking
matcher tries them. Which prefixes those are does not depend on that order: they are exactly
the prefixes in the pattern's language `Pattern.Matches`, the texts it matches as a whole,
given by one rule per constructor. Groups change what is remembered, never what matches.

Repetition counts only repetitions that consume text, and at most one more than the text has
characters. Neither bound loses a match: an empty repetition adds nothing, and a text of `n`
characters splits into at most `n` non-empty pieces.

A search tries the allowed positions from left to right and stops at the first where some
prefix matches. So it finds a match exactly when one begins at an allowed position, and the
position it reports is the least such.

## Main definitions

* `Pattern.Matches` — the texts a pattern matches as a whole
* `Pattern.MatchesPrefix` — a text that begins with a match
* `Pattern.HitAt` — a position where a search tries and a match begins

## Main results

* `Pattern.exists_mem_run_iff` — the rests `run` leaves are exactly those a match leaves
* `Pattern.searchFrom_eq_none_iff`, `Pattern.searchFrom_eq_some` — a search reports the
  first position with a match
* `Pattern.matches_chain_cons_iff`, `Pattern.matches_lit_iff`, `Pattern.matches_many_one_iff`,
  `Pattern.matches_oneOrMore_one_iff` — the languages of the derived patterns
-/

namespace IacLint.Text

namespace Pattern

/-- The texts a pattern matches as a whole. A repetition is a run of non-empty matches. -/
inductive Matches : Pattern → List Char → Prop
  | empty : Matches .empty []
  | one {test : Char → Bool} {c : Char} : test c = true → Matches (.one test) [c]
  | seq {a b : Pattern} {u v : List Char} : Matches a u → Matches b v → Matches (.seq a b) (u ++ v)
  | altLeft {a b : Pattern} {u : List Char} : Matches a u → Matches (.alt a b) u
  | altRight {a b : Pattern} {u : List Char} : Matches b u → Matches (.alt a b) u
  | manyNil {a : Pattern} : Matches (.many a) []
  | manyCons {a : Pattern} {u v : List Char} :
      Matches a u → u ≠ [] → Matches (.many a) v → Matches (.many a) (u ++ v)
  | group {k : Nat} {a : Pattern} {u : List Char} : Matches a u → Matches (.group k a) u

/-- A text that begins with a match of the pattern. -/
def MatchesPrefix (p : Pattern) (cs : List Char) : Prop := ∃ u, u <+: cs ∧ p.Matches u

/-! ## Repetition -/

section Repeat

variable {step : List Char → Captures → List (Captures × List Char)}

/-- Repeating always keeps the choice of stopping where it is. -/
theorem self_mem_repeatSteps (fuel : Nat) (cs : List Char) (caps : Captures) :
    (caps, cs) ∈ repeatSteps step fuel cs caps := by
  cases fuel <;> simp [repeatSteps]

/-- More fuel keeps every way of repeating. -/
theorem mem_repeatSteps_of_le {fuel more : Nat} (enough : fuel ≤ more) {cs : List Char}
    {caps : Captures} {r : Captures × List Char} (found : r ∈ repeatSteps step fuel cs caps) :
    r ∈ repeatSteps step more cs caps := by
  induction fuel generalizing more cs caps with
  | zero =>
    rw [repeatSteps, List.mem_singleton] at found
    exact found ▸ self_mem_repeatSteps more cs caps
  | succ fuel ih =>
    obtain ⟨more, rfl⟩ : ∃ m, more = m + 1 := ⟨more - 1, by omega⟩
    simp only [repeatSteps, List.mem_append, List.mem_flatMap, List.mem_singleton] at found ⊢
    rcases found with ⟨s, taken, again⟩ | same
    · refine .inl ⟨s, taken, ?_⟩
      split at again
      · rw [if_pos ‹_›]
        exact ih (by omega) again
      · simp at again
    · exact .inr same

end Repeat

/-! ## `run` gives exactly the matches -/

/-- Every way of repeating `a` leaves what follows a match of `a`'s repetition. -/
theorem repeatSteps_sound {a : Pattern}
    (sound : ∀ {cs caps r}, r ∈ a.run cs caps → ∃ u, cs = u ++ r.2 ∧ a.Matches u) :
    ∀ {fuel cs caps r}, r ∈ repeatSteps a.run fuel cs caps →
      ∃ u, cs = u ++ r.2 ∧ (Pattern.many a).Matches u := by
  intro fuel
  induction fuel with
  | zero =>
    intro cs caps r found
    rw [repeatSteps, List.mem_singleton] at found
    exact ⟨[], by simp [found], .manyNil⟩
  | succ fuel ih =>
    intro cs caps r found
    simp only [repeatSteps, List.mem_append, List.mem_flatMap, List.mem_singleton] at found
    rcases found with ⟨s, taken, again⟩ | rfl
    · split at again
      · rename_i shorter
        obtain ⟨u, split_u, first⟩ := sound taken
        obtain ⟨v, split_v, later⟩ := ih again
        refine ⟨u ++ v, by rw [split_u, split_v, List.append_assoc], .manyCons first ?_ later⟩
        rintro rfl
        simp [split_u] at shorter
      · simp at again
    · exact ⟨[], rfl, .manyNil⟩

/-- What `run` leaves follows a match. -/
theorem run_sound (p : Pattern) {cs : List Char} {caps : Captures} {r : Captures × List Char}
    (found : r ∈ p.run cs caps) : ∃ u, cs = u ++ r.2 ∧ p.Matches u := by
  induction p generalizing cs caps r with
  | empty =>
    rw [run, List.mem_singleton] at found
    exact ⟨[], by simp [found], .empty⟩
  | one test =>
    match cs, found with
    | c :: rest, found =>
      simp only [run] at found
      split at found
      · rw [List.mem_singleton] at found
        exact ⟨[c], by simp [found], .one ‹_›⟩
      · simp at found
  | seq a b iha ihb =>
    simp only [run, List.mem_flatMap] at found
    obtain ⟨s, first, second⟩ := found
    obtain ⟨u, split_u, mu⟩ := iha first
    obtain ⟨v, split_v, mv⟩ := ihb second
    exact ⟨u ++ v, by rw [split_u, split_v, List.append_assoc], .seq mu mv⟩
  | alt a b iha ihb =>
    rcases List.mem_append.mp found with left | right
    · obtain ⟨u, split_u, mu⟩ := iha left
      exact ⟨u, split_u, .altLeft mu⟩
    · obtain ⟨u, split_u, mu⟩ := ihb right
      exact ⟨u, split_u, .altRight mu⟩
  | many a ih => exact repeatSteps_sound ih found
  | group k a ih =>
    simp only [run, List.mem_map] at found
    obtain ⟨s, inner, rfl⟩ := found
    obtain ⟨u, split_u, mu⟩ := ih inner
    exact ⟨u, split_u, .group mu⟩

/-- Every match is tried: `run` leaves whatever follows it. -/
theorem run_complete {p : Pattern} {u : List Char} (h : p.Matches u) (rest : List Char)
    (caps : Captures) : ∃ caps', (caps', rest) ∈ p.run (u ++ rest) caps := by
  induction h generalizing rest caps with
  | empty => exact ⟨caps, by simp [run]⟩
  | one pass => exact ⟨caps, by simp [run, pass]⟩
  | @seq a b u v _ _ iha ihb =>
    obtain ⟨caps1, first⟩ := iha (v ++ rest) caps
    obtain ⟨caps2, second⟩ := ihb rest caps1
    refine ⟨caps2, ?_⟩
    rw [List.append_assoc]
    simp only [run, List.mem_flatMap]
    exact ⟨_, first, second⟩
  | altLeft _ ih =>
    obtain ⟨caps', found⟩ := ih rest caps
    exact ⟨caps', List.mem_append_left _ found⟩
  | altRight _ ih =>
    obtain ⟨caps', found⟩ := ih rest caps
    exact ⟨caps', List.mem_append_right _ found⟩
  | manyNil => exact ⟨caps, self_mem_repeatSteps _ _ _⟩
  | @manyCons a u v _ nonempty _ iha ihv =>
    -- one repetition of `a`, then the rest of the repetition on what is left, whose fuel
    -- is smaller than what the whole text allows
    obtain ⟨caps1, first⟩ := iha (v ++ rest) caps
    obtain ⟨caps2, later⟩ := ihv rest caps1
    have shorter : (v ++ rest).length < (u ++ (v ++ rest)).length := by
      have : u.length ≠ 0 := by simpa using nonempty
      simp only [List.length_append]
      omega
    refine ⟨caps2, ?_⟩
    rw [List.append_assoc]
    simp only [run, repeatSteps, List.mem_append, List.mem_flatMap]
    refine .inl ⟨(caps1, v ++ rest), first, ?_⟩
    rw [if_pos shorter]
    exact mem_repeatSteps_of_le (by omega) later
  | group _ ih =>
    obtain ⟨caps', found⟩ := ih rest caps
    exact ⟨_, List.mem_map.mpr ⟨_, found, rfl⟩⟩

/-- The rests `run` leaves are exactly those a match leaves. -/
theorem exists_mem_run_iff {p : Pattern} {cs rest : List Char} {caps : Captures} :
    (∃ caps', (caps', rest) ∈ p.run cs caps) ↔ ∃ u, cs = u ++ rest ∧ p.Matches u := by
  constructor
  · rintro ⟨caps', found⟩
    exact run_sound p found
  · rintro ⟨u, rfl, mu⟩
    exact run_complete mu rest caps

/-- `run` finds some way exactly when the text begins with a match. -/
theorem run_ne_nil_iff {p : Pattern} {cs : List Char} {caps : Captures} :
    p.run cs caps ≠ [] ↔ p.MatchesPrefix cs := by
  constructor
  · intro nonempty
    obtain ⟨r, found⟩ := List.exists_mem_of_ne_nil _ nonempty
    obtain ⟨u, split_u, mu⟩ := run_sound p found
    exact ⟨u, ⟨r.2, split_u.symm⟩, mu⟩
  · rintro ⟨u, ⟨rest, rfl⟩, mu⟩
    obtain ⟨caps', found⟩ := run_complete mu rest caps
    exact List.ne_nil_of_mem found

theorem head?_run_isSome_iff {p : Pattern} {cs : List Char} {caps : Captures} :
    (p.run cs caps).head?.isSome ↔ p.MatchesPrefix cs := by
  rw [← run_ne_nil_iff, Option.isSome_iff_ne_none, ne_eq, List.head?_eq_none_iff]

/-! ## Searching -/

/-- Position `k` of `cs` is one where a search tries, given the character `prev` before the
text, and where a match begins. -/
def HitAt (p : Pattern) (starts : Option Char → Bool) (prev : Option Char) (cs : List Char)
    (k : Nat) : Prop :=
  k ≤ cs.length ∧ starts ((cs.take k).getLast?.or prev) = true ∧ p.MatchesPrefix (cs.drop k)

section Search

variable {p : Pattern} {starts : Option Char → Bool}

theorem getLast?_cons_or (c : Char) (l : List Char) (prev : Option Char) :
    (c :: l).getLast?.or prev = l.getLast?.or (some c) := by
  cases h : l.getLast? <;> simp [List.getLast?_cons, h]

theorem hitAt_zero {prev : Option Char} {cs : List Char} :
    p.HitAt starts prev cs 0 ↔ starts prev = true ∧ p.MatchesPrefix cs := by
  simp [HitAt]

/-- Past the first character, positions are those of the rest with that character before. -/
theorem hitAt_succ {prev : Option Char} {c : Char} {cs : List Char} {k : Nat} :
    p.HitAt starts prev (c :: cs) (k + 1) ↔ p.HitAt starts (some c) cs k := by
  simp [HitAt, getLast?_cons_or]

theorem hitAt_nil {prev : Option Char} {k : Nat} :
    p.HitAt starts prev [] k ↔ k = 0 ∧ starts prev = true ∧ p.MatchesPrefix [] := by
  constructor
  · rintro ⟨within, allowed, found⟩
    obtain rfl : k = 0 := by simpa using within
    exact ⟨rfl, by simpa using allowed, by simpa using found⟩
  · rintro ⟨rfl, allowed, found⟩
    exact hitAt_zero.mpr ⟨allowed, found⟩

/-- The search's attempt at the current position finds nothing exactly when no match may
begin there. -/
theorem attempt_eq_none_iff {prev : Option Char} {cs : List Char} :
    (if starts prev = true then (p.run cs []).head? else none) = none ↔
      ¬ p.HitAt starts prev cs 0 := by
  rw [hitAt_zero, ← @head?_run_isSome_iff p _ []]
  split <;> simp_all [Option.isSome_iff_ne_none]

/-- A search finds nothing exactly when no position has a match. -/
theorem searchFrom_eq_none_iff {i : Nat} {prev : Option Char} {cs : List Char} :
    searchFrom p starts i prev cs = none ↔ ∀ k, ¬ p.HitAt starts prev cs k := by
  induction cs generalizing i prev with
  | nil =>
    simp only [searchFrom, hitAt_nil, ← @head?_run_isSome_iff p _ []]
    split <;> simp_all [Option.isSome_iff_ne_none]
  | cons c cs ih =>
    rw [searchFrom]
    split
    · rename_i r found
      simp only [reduceCtorEq, false_iff, not_forall, not_not]
      refine ⟨0, ?_⟩
      by_contra missing
      rw [← attempt_eq_none_iff, found] at missing
      exact Option.some_ne_none r missing
    · rename_i none_here
      rw [ih]
      -- the first position has no match, and the others are those of the rest
      constructor
      · intro later k
        cases k with
        | zero => exact attempt_eq_none_iff.mp none_here
        | succ k => exact hitAt_succ.not.mpr (later k)
      · intro never k
        exact hitAt_succ.not.mp (never (k + 1))

/-- A search reports the first position with a match, counted from `i`. -/
theorem searchFrom_eq_some {i j : Nat} {prev : Option Char} {cs : List Char} {caps : Captures}
    {rest : List Char} (found : searchFrom p starts i prev cs = some (j, caps, rest)) :
    ∃ k, j = i + k ∧ p.HitAt starts prev cs k ∧ ∀ k' < k, ¬ p.HitAt starts prev cs k' := by
  induction cs generalizing i prev with
  | nil =>
    simp only [searchFrom] at found
    split at found
    · obtain ⟨r, first, same⟩ := Option.map_eq_some_iff.mp found
      simp only [Prod.mk.injEq] at same
      have nonempty : (p.run [] []).head?.isSome := by simp [first]
      exact ⟨0, by omega, hitAt_zero.mpr ⟨‹_›, head?_run_isSome_iff.mp nonempty⟩, by simp⟩
    · simp at found
  | cons c cs ih =>
    simp only [searchFrom] at found
    split at found
    · rename_i r here
      simp only [Option.some.injEq, Prod.mk.injEq] at found
      have hit : p.HitAt starts prev (c :: cs) 0 :=
        not_not.mp (attempt_eq_none_iff.not.mp (by simp [here]))
      exact ⟨0, by omega, hit, by simp⟩
    · rename_i not_here
      obtain ⟨k, rfl, hit, before⟩ := ih found
      refine ⟨k + 1, by omega, hitAt_succ.mpr hit, ?_⟩
      intro k' smaller
      cases k' with
      | zero => exact attempt_eq_none_iff.mp not_here
      | succ k' => exact hitAt_succ.not.mpr (before k' (by omega))

end Search

/-! ## Languages of the derived patterns -/

@[simp] theorem matches_empty_iff {u : List Char} : Pattern.empty.Matches u ↔ u = [] := by
  constructor
  · rintro ⟨⟩
    rfl
  · rintro rfl
    exact .empty

@[simp] theorem matches_one_iff {test : Char → Bool} {u : List Char} :
    (Pattern.one test).Matches u ↔ ∃ c, u = [c] ∧ test c = true := by
  constructor
  · intro h
    cases h with
    | one pass => exact ⟨_, rfl, pass⟩
  · rintro ⟨c, rfl, pass⟩
    exact .one pass

@[simp] theorem matches_seq_iff {a b : Pattern} {u : List Char} :
    (Pattern.seq a b).Matches u ↔ ∃ v w, u = v ++ w ∧ a.Matches v ∧ b.Matches w := by
  constructor
  · intro h
    cases h with
    | seq mv mw => exact ⟨_, _, rfl, mv, mw⟩
  · rintro ⟨v, w, rfl, mv, mw⟩
    exact .seq mv mw

theorem matches_chain_nil_iff {u : List Char} : (chain []).Matches u ↔ u = [] :=
  matches_empty_iff

theorem matches_chain_cons_iff {q : Pattern} {ps : List Pattern} {u : List Char} :
    (chain (q :: ps)).Matches u ↔ ∃ v w, u = v ++ w ∧ q.Matches v ∧ (chain ps).Matches w :=
  matches_seq_iff

theorem matches_chain_append_iff {ps qs : List Pattern} {u : List Char} :
    (chain (ps ++ qs)).Matches u ↔
      ∃ v w, u = v ++ w ∧ (chain ps).Matches v ∧ (chain qs).Matches w := by
  induction ps generalizing u with
  | nil => simp [matches_chain_nil_iff]
  | cons q ps ih =>
    simp only [List.cons_append, matches_chain_cons_iff, ih]
    constructor
    · rintro ⟨v, w, rfl, mq, v', w', rfl, mv, mw⟩
      exact ⟨v ++ v', w', by simp, ⟨v, v', rfl, mq, mv⟩, mw⟩
    · rintro ⟨v, w, rfl, ⟨v', w', rfl, mq, mv⟩, mw⟩
      exact ⟨v', w' ++ w, by simp, mq, w', w, rfl, mv, mw⟩

/-- A chain of single characters matches the texts that pass its tests one by one. -/
theorem matches_chain_ones_iff {tests : List (Char → Bool)} {u : List Char} :
    (chain (tests.map .one)).Matches u ↔ List.Forall₂ (fun test c => test c = true) tests u := by
  induction tests generalizing u with
  | nil => simp [matches_chain_nil_iff]
  | cons test tests ih =>
    rw [List.map_cons, matches_chain_cons_iff]
    cases u with
    | nil => simp
    | cons c u =>
      simp only [matches_one_iff, List.forall₂_cons, ← ih]
      constructor
      · rintro ⟨_, w, same, ⟨x, rfl, pass⟩, rest⟩
        simp only [List.singleton_append, List.cons.injEq] at same
        obtain ⟨rfl, rfl⟩ := same
        exact ⟨pass, rest⟩
      · rintro ⟨pass, rest⟩
        exact ⟨[c], u, rfl, ⟨c, rfl, pass⟩, rest⟩

theorem matches_chain_chars_iff {cs u : List Char} :
    (chain (cs.map char)).Matches u ↔ u = cs := by
  induction cs generalizing u with
  | nil => exact matches_chain_nil_iff
  | cons c cs ih =>
    rw [List.map_cons, matches_chain_cons_iff]
    simp only [char, matches_one_iff, beq_iff_eq, ih]
    constructor
    · rintro ⟨_, _, rfl, ⟨_, rfl, rfl⟩, rfl⟩
      rfl
    · rintro rfl
      exact ⟨[c], cs, rfl, ⟨c, rfl, rfl⟩, rfl⟩

@[simp] theorem matches_lit_iff {s : String} {u : List Char} :
    (lit s).Matches u ↔ u = s.toList :=
  matches_chain_chars_iff

/-- A repetition of one character matches the texts whose characters all pass its test. -/
theorem matches_many_one_iff {test : Char → Bool} {u : List Char} :
    (Pattern.many (.one test)).Matches u ↔ ∀ c ∈ u, test c = true := by
  constructor
  · intro h
    generalize same : Pattern.many (.one test) = p at h
    induction h with
    | manyNil => simp
    | manyCons first _ _ _ ih =>
      cases same
      obtain ⟨c, rfl, pass⟩ := matches_one_iff.mp first
      simpa [pass] using ih rfl
    | empty | one | seq | altLeft | altRight | group => cases same
  · intro all
    induction u with
    | nil => exact .manyNil
    | cons c u ih =>
      exact .manyCons (u := [c]) (.one (all c List.mem_cons_self)) (List.cons_ne_nil c [])
        (ih fun x hx => all x (List.mem_cons_of_mem c hx))

theorem matches_oneOrMore_one_iff {test : Char → Bool} {u : List Char} :
    (oneOrMore (.one test)).Matches u ↔ u ≠ [] ∧ ∀ c ∈ u, test c = true := by
  simp only [oneOrMore, matches_seq_iff, matches_one_iff, matches_many_one_iff]
  constructor
  · rintro ⟨v, w, rfl, ⟨c, rfl, pass⟩, rest⟩
    exact ⟨by simp, by simpa [pass] using rest⟩
  · rintro ⟨nonempty, all⟩
    obtain ⟨c, w, rfl⟩ := List.exists_cons_of_ne_nil nonempty
    exact ⟨[c], w, rfl, ⟨c, rfl, all c List.mem_cons_self⟩,
      fun x hx => all x (List.mem_cons_of_mem c hx)⟩

end Pattern

end IacLint.Text
