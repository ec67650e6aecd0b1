import Mathlib
import IacLint.Proofs.PathForm
import IacLint.Proofs.PatternLanguage
import IacLint.Puppet.Checks

/-!
# Lines, passwords and classes in manifests

The lines of a manifest are the pieces of its text between line feeds, so there is one more
line than there are line feeds, and no line holds one. A position of the text lies on the line
numbered by the line feeds before it: the text before the position is the earlier lines, each
with its line feed, and then the beginning of that line.

The three text checks of a manifest, read against that numbering:

* trailing blanks are reported once per line, in order, for exactly the lines that end in a
  tab, line feed, form feed, carriage return or space; a line that ends a carriage return
  and line feed pair is always one of them;
* a hard-coded password is reported at most once, exactly when the text holds one, on the
  line of the first place where one begins;
* a missing class declaration is reported exactly when no line begins with blanks (none of
  them a line feed), `class`, blanks (which may run over line ends) and a word character or
  a colon.

## Main definitions

* `Puppet.Manifest.OnLine` — a position of the text lies on a line
* `Puppet.PasswordAssignment` — a hard-coded password at the start of a text
* `Puppet.DeclaresClass` — a text that declares a class at the start of a line

## Main results

* `Text.splitOnCharAux_locate` — where a position falls among the pieces of a text
* `Puppet.Manifest.onLine_count`, `Puppet.Manifest.OnLine.eq_count` — the line of a position
  is the number of line feeds before it, plus one
* `Puppet.Manifest.OnLine.bounds` — that line is one of the manifest's lines
* `Puppet.trailing_whitespace_lines` — the lines reported for trailing blanks
* `Puppet.hardcoded_password_line` — the hard-coded password reported, and its line
* `Puppet.class_declaration_found` — when a missing class declaration is reported
-/

namespace IacLint

namespace Text

/-! ## Pieces between separators -/

/-- Where position `i` of `cs` falls among the pieces: the text before it is the pieces
before the one numbered by the separators before `i`, each with its separator, and then
`head`; that piece is `head` followed by the text from `i` up to the next separator. -/
theorem splitOnCharAux_locate (sep : Char) (cs cur : List Char) (i : Nat) :
    ∃ head, cur.reverse ++ cs.take i =
        ((splitOnCharAux sep cs cur).take ((cs.take i).count sep)).flatMap
          (fun l => l.toList ++ [sep]) ++ head ∧
      (splitOnCharAux sep cs cur)[(cs.take i).count sep]? =
        some (String.ofList (head ++ (cs.drop i).takeWhile (· != sep))) := by
  induction cs generalizing cur i with
  | nil => exact ⟨cur.reverse, by simp [splitOnCharAux]⟩
  | cons c rest ih =>
    by_cases here : c = sep
    · subst here
      cases i with
      | zero => exact ⟨cur.reverse, by simp [splitOnCharAux]⟩
      | succ i =>
        -- the separator closes the piece begun in `cur`; the rest starts a new one
        obtain ⟨head, before, piece⟩ := ih [] i
        rw [List.reverse_nil, List.nil_append] at before
        rw [List.take_succ_cons, List.drop_succ_cons, List.count_cons, if_pos (beq_self_eq_true c),
          splitOnCharAux, if_pos rfl]
        generalize List.count c (List.take i rest) = k at before piece ⊢
        refine ⟨head, ?_, by simpa using piece⟩
        rw [before]
        simp
    · -- the character joins the piece begun in `cur`
      have pieces : splitOnCharAux sep (c :: rest) cur = splitOnCharAux sep rest (c :: cur) := by
        rw [splitOnCharAux, if_neg here]
      cases i with
      | zero =>
        obtain ⟨head, before, piece⟩ := ih (c :: cur) 0
        simp only [List.reverse_cons, List.take_zero, List.count_nil, List.take_zero,
          List.flatMap_nil, List.nil_append, List.append_nil] at before
        subst before
        refine ⟨cur.reverse, by simp, ?_⟩
        rw [pieces]
        simpa [List.takeWhile_cons, here] using piece
      | succ i =>
        obtain ⟨head, before, piece⟩ := ih (c :: cur) i
        refine ⟨head, ?_, ?_⟩
        · simpa [pieces, List.count_cons, here] using before
        · simpa [pieces, List.count_cons, here] using piece

end Text

namespace Puppet

open IacLint.Text Pattern

/-! ## Lines of a manifest -/

namespace Manifest

/-- Position `i` of the text lies on line `n`, counted from 1: the text before `i` is the
first `n - 1` lines, each with the line feed that ends it, and then `head`; and line `n` is
`head` followed by the text from `i` up to the next line feed. -/
def OnLine (m : Manifest) (i n : Nat) : Prop :=
  0 < n ∧ ∃ head, m.text.toList.take i =
      (m.lines.take (n - 1)).flatMap (fun l => l.toList ++ ['\n']) ++ head ∧
    m.lines[n - 1]? = some (String.ofList (head ++ (m.text.toList.drop i).takeWhile (· != '\n')))

theorem not_mem_of_mem_lines {m : Manifest} {l : String} (line : l ∈ m.lines) :
    '\n' ∉ l.toList :=
  not_mem_of_mem_splitOnCharAux List.not_mem_nil l line

/-- Every position lies on the line numbered by the line feeds before it. -/
theorem onLine_count (m : Manifest) (i : Nat) :
    m.OnLine i ((m.text.toList.take i).count '\n' + 1) := by
  obtain ⟨head, before, piece⟩ := splitOnCharAux_locate '\n' m.text.toList [] i
  exact ⟨Nat.succ_pos _, head, by simpa [lines, splitOnChar] using before,
    by simpa [lines, splitOnChar] using piece⟩

/-- The line a position lies on is one of the lines. -/
theorem OnLine.bounds {m : Manifest} {i n : Nat} (on : m.OnLine i n) :
    1 ≤ n ∧ n ≤ m.lines.length := by
  obtain ⟨positive, head, -, piece⟩ := on
  obtain ⟨within, -⟩ := List.getElem?_eq_some_iff.mp piece
  omega

/-- A position lies on one line only: its number is that of the line feeds before it. -/
theorem OnLine.eq_count {m : Manifest} {i n : Nat} (on : m.OnLine i n) :
    n = (m.text.toList.take i).count '\n' + 1 := by
  have bounded := on.bounds
  obtain ⟨-, head, before, piece⟩ := on
  -- each earlier line brings its own line feed and no other, and `head` begins a line
  have earlier : ∀ l ∈ m.lines.take (n - 1), (l.toList ++ ['\n']).count '\n' = 1 := by
    intro l member
    simp [List.count_eq_zero_of_not_mem (not_mem_of_mem_lines (List.mem_of_mem_take member))]
  have inHead : head.count '\n' = 0 := by
    have line := not_mem_of_mem_lines (List.mem_of_getElem? piece)
    rw [String.toList_ofList] at line
    exact List.count_eq_zero_of_not_mem fun inside => line (List.mem_append_left _ inside)
  have counted : (m.text.toList.take i).count '\n' = n - 1 := by
    have ones : (m.lines.take (n - 1)).map (List.count '\n' ∘ fun l => l.toList ++ ['\n']) =
        (m.lines.take (n - 1)).map fun _ => 1 :=
      List.map_congr_left earlier
    rw [before, List.count_append, List.count_flatMap, inHead, ones]
    simp [Nat.min_eq_left (show n - 1 ≤ m.lines.length by omega)]
  omega

end Manifest

/-! ## Trailing blanks -/

/-- The characters that match the lower-case letter `c` when case is ignored: those whose
lower-case form is `c`, and for `s` also the long `ſ`, whose case folding is `s`. -/
def MatchesIgnoringCase (x c : Char) : Prop := x.toLower = c ∨ (c = 's' ∧ x = 'ſ')

/-- A double or a single quote. -/
def IsQuote (q : Char) : Prop := q = '\x22' ∨ q = '\x27'

/-- A hard-coded password at the start of `cs`: `password` in any case, blanks (which may
run over line ends), `=>`, blanks, a quote, characters other than a line feed, and a quote. -/
def PasswordAssignment (cs : List Char) : Prop :=
  ∃ word sp1 sp2 body rest : List Char, ∃ q1 q2 : Char,
    cs = word ++ sp1 ++ ['=', '>'] ++ sp2 ++ q1 :: body ++ q2 :: rest ∧
    List.Forall₂ (fun c x => MatchesIgnoringCase x c) "password".toList word ∧
    (∀ x ∈ sp1, isBlank x) ∧ (∀ x ∈ sp2, isBlank x) ∧ IsQuote q1 ∧ IsQuote q2 ∧ '\n' ∉ body

theorem toNat_toLower (x : Char) :
    x.toLower.toNat = if 65 ≤ x.toNat ∧ x.toNat ≤ 90 then x.toNat + 32 else x.toNat := by
  unfold Char.toLower
  simp only [Char.toNat, UInt32.le_iff_toNat_le]
  split
  · rename_i upper
    simp at upper
    simp [upper]
    omega
  · rename_i other
    rw [if_neg (by simpa using other)]

theorem toNat_toUpper (x : Char) :
    x.toUpper.toNat = if 97 ≤ x.toNat ∧ x.toNat ≤ 122 then x.toNat - 32 else x.toNat := by
  unfold Char.toUpper
  simp only [Char.toNat, UInt32.le_iff_toNat_le]
  split
  · rename_i lower
    simp at lower
    simp [lower]
    omega
  · rename_i other
    rw [if_neg (by simpa using other)]

/-- A letter given in lower case is matched, ignoring case, by itself and its capital. -/
theorem anyCase_iff {x c : Char} (lower : 97 ≤ c.toNat ∧ c.toNat ≤ 122) :
    (x == c || x == c.toUpper || (c == 's' && x == 'ſ')) = true ↔ MatchesIgnoringCase x c := by
  have cases : x.toLower = c ↔ x = c ∨ x = c.toUpper := by
    rw [← Char.toNat_inj, ← Char.toNat_inj, ← Char.toNat_inj, toNat_toLower, toNat_toUpper]
    split_ifs <;> omega
  simp [MatchesIgnoringCase, cases, or_assoc]

/-- The word a hard-coded password begins with. -/
theorem matches_password_iff {word : List Char} :
    (chain ("password".toList.map anyCase)).Matches word ↔
      List.Forall₂ (fun c x => MatchesIgnoringCase x c) "password".toList word := by
  have tests : "password".toList.map anyCase =
      ("password".toList.map fun c x => x == c || x == c.toUpper || (c == 's' && x == 'ſ')).map
        .one := by
    rw [List.map_map]
    rfl
  have lower : ∀ c ∈ "password".toList, 97 ≤ c.toNat ∧ c.toNat ≤ 122 := by simp
  rw [tests, matches_chain_ones_iff, List.forall₂_map_left_iff]
  -- each letter of `password` is lower case, so its test is `MatchesIgnoringCase`
  constructor
  · intro passed
    have both := (List.forall₂_and_left _ _).mpr ⟨lower, passed⟩
    exact both.imp fun c x ⟨low, pass⟩ => (anyCase_iff low).mp pass
  · intro matched
    have both := (List.forall₂_and_left _ _).mpr ⟨lower, matched⟩
    exact both.imp fun c x ⟨low, pass⟩ => (anyCase_iff low).mpr pass

theorem matches_hardcodedPassword_iff {cs : List Char} :
    hardcodedPassword.MatchesPrefix cs ↔ PasswordAssignment cs := by
  have arrow : "=>".toList = ['=', '>'] := by simp
  have quotes : ∀ q, "\"'".toList.contains q = true ↔ IsQuote q := by
    intro q
    simp [IsQuote, or_comm]
  simp only [MatchesPrefix, hardcodedPassword, matches_chain_append_iff, matches_chain_cons_iff,
    matches_chain_nil_iff, matches_password_iff, blank, quoteMark, oneOf, matches_many_one_iff,
    matches_lit_iff, matches_one_iff, arrow, quotes, bne_iff_ne, ne_eq]
  constructor
  · rintro ⟨_, ⟨rest, rfl⟩, word, _, rfl, spelled, sp1, _, rfl, blank1, _, _, rfl, rfl, sp2, _,
      rfl, blank2, _, _, rfl, ⟨q1, rfl, quote1⟩, body, _, rfl, noFeed, _, _, rfl,
      ⟨q2, rfl, quote2⟩, rfl⟩
    exact ⟨word, sp1, sp2, body, rest, q1, q2, by simp, spelled, blank1, blank2, quote1, quote2,
      fun inside => noFeed '\n' inside rfl⟩
  · rintro ⟨word, sp1, sp2, body, rest, q1, q2, rfl, spelled, blank1, blank2, quote1, quote2,
      noFeed⟩
    -- the match is everything up to the closing quote
    refine ⟨word ++ sp1 ++ ['=', '>'] ++ sp2 ++ q1 :: body ++ [q2], ⟨rest, by simp⟩,
      word, sp1 ++ ['=', '>'] ++ sp2 ++ q1 :: body ++ [q2], by simp, spelled,
      sp1, ['=', '>'] ++ sp2 ++ q1 :: body ++ [q2], by simp, blank1,
      ['=', '>'], sp2 ++ q1 :: body ++ [q2], by simp, rfl,
      sp2, q1 :: body ++ [q2], by simp, blank2,
      [q1], body ++ [q2], by simp, ⟨q1, rfl, quote1⟩,
      body, [q2], rfl, fun x inside same => noFeed (same ▸ inside),
      [q2], [], rfl, ⟨q2, rfl, quote2⟩, rfl⟩

theorem PasswordAssignment.ne_nil {cs : List Char} (found : PasswordAssignment cs) : cs ≠ [] := by
  obtain ⟨word, sp1, sp2, body, rest, q1, q2, rfl, -⟩ := found
  simp

/-- A search from every position finds a hard-coded password where `PasswordAssignment`
holds. -/
theorem hitAt_password_iff {cs : List Char} {k : Nat} :
    hardcodedPassword.HitAt (fun _ => true) none cs k ↔ PasswordAssignment (cs.drop k) := by
  rw [HitAt, matches_hardcodedPassword_iff]
  constructor
  · exact fun hit => hit.2.2
  · intro found
    refine ⟨?_, rfl, found⟩
    by_contra beyond
    exact found.ne_nil (List.drop_eq_nil_of_le (by omega))

/-- A hard-coded password is reported at most once: exactly when the text holds one, and then
on the line of the first place where one begins. -/
theorem hardcoded_password_line (path : String) (m : Manifest) :
    (checkHardcodedPassword path m = [] ∧ ∀ i, ¬ PasswordAssignment (m.text.toList.drop i)) ∨
    ∃ i n, PasswordAssignment (m.text.toList.drop i) ∧
      (∀ j < i, ¬ PasswordAssignment (m.text.toList.drop j)) ∧
      m.OnLine i n ∧ 1 ≤ n ∧ n ≤ m.lines.length ∧
      checkHardcodedPassword path m =
        [⟨path, .error, "Possible hardcoded password detected on line " ++ toString n⟩] := by
  rw [checkHardcodedPassword]
  split
  · rename_i start caps rest found
    obtain ⟨k, same, hit, first⟩ := searchFrom_eq_some found
    rw [Nat.zero_add] at same
    subst start
    have on := m.onLine_count k
    exact .inr ⟨k, _, hitAt_password_iff.mp hit,
      fun j earlier => hitAt_password_iff.not.mp (first j earlier), on, on.bounds.1, on.bounds.2,
      rfl⟩
  · rename_i missing
    refine .inl ⟨rfl, fun i => ?_⟩
    exact hitAt_password_iff.not.mp (searchFrom_eq_none_iff.mp missing i)

/-! ## Class declarations -/

/-- A class declared at the start of a line of `cs`: the line begins with blanks other than a
line feed, then `class`, then blanks (which may run over line ends), then a word character or
a colon. `pre` is the text before that line. -/
def DeclaresClass (cs : List Char) : Prop :=
  ∃ pre indent gap rest : List Char, ∃ c : Char,
    cs = pre ++ indent ++ "class".toList ++ gap ++ c :: rest ∧
    (pre = [] ∨ pre.getLast? = some '\n') ∧ (∀ x ∈ indent, isBlank x ∧ x ≠ '\n') ∧
    gap ≠ [] ∧ (∀ x ∈ gap, isBlank x) ∧ (isWordChar c ∨ c = ':')

/-- A text begins with a class declaration when, after blanks, it has `class`, blanks, and a
word character or a colon. -/
theorem matches_classDeclaration_iff {cs : List Char} :
    classDeclaration.MatchesPrefix cs ↔ ∃ indent gap rest : List Char, ∃ c : Char,
      cs = indent ++ "class".toList ++ gap ++ c :: rest ∧ (∀ x ∈ indent, isBlank x) ∧
      gap ≠ [] ∧ (∀ x ∈ gap, isBlank x) ∧ (isWordChar c ∨ c = ':') := by
  simp only [MatchesPrefix, classDeclaration, chain, List.foldr, matches_seq_iff, blank,
    matches_many_one_iff, matches_lit_iff, matches_oneOrMore_one_iff, matches_empty_iff,
    Bool.or_eq_true, beq_iff_eq]
  constructor
  · rintro ⟨_, ⟨rest, rfl⟩, indent, _, rfl, blanks, _, _, rfl, rfl, gap, _, rfl, ⟨gapped, spaced⟩,
      name, _, rfl, ⟨named, wordy⟩, rfl⟩
    obtain ⟨c, name, rfl⟩ := List.exists_cons_of_ne_nil named
    exact ⟨indent, gap, name ++ rest, c, by simp, blanks, gapped, spaced,
      wordy c List.mem_cons_self⟩
  · rintro ⟨indent, gap, rest, c, rfl, blanks, gapped, spaced, wordy⟩
    -- the match ends with the first character of the name
    refine ⟨indent ++ "class".toList ++ gap ++ [c], ⟨rest, by simp⟩,
      indent, "class".toList ++ gap ++ [c], by simp, blanks,
      "class".toList, gap ++ [c], rfl, rfl,
      gap, [c], rfl, ⟨gapped, spaced⟩,
      [c], [], rfl, ⟨List.cons_ne_nil c [], by simpa using wordy⟩, rfl⟩

/-- A run of characters either has no line feed, or a last one. -/
theorem no_feed_or_last_feed (l : List Char) :
    '\n' ∉ l ∨ ∃ a b, l = a ++ '\n' :: b ∧ '\n' ∉ b := by
  induction l with
  | nil => exact .inl List.not_mem_nil
  | cons x l ih =>
    rcases ih with none | ⟨a, b, rfl, after⟩
    · by_cases feed : x = '\n'
      · exact .inr ⟨[], l, by simp [feed], none⟩
      · exact .inl (by simp [Ne.symm feed, none])
    · exact .inr ⟨x :: a, b, rfl, after⟩

/-- The start of a line is where a search for a class declaration tries. -/
theorem hitAt_classDeclaration_iff {cs : List Char} {k : Nat} :
    classDeclaration.HitAt (fun prev => prev.isNone || prev == some '\n') none cs k ↔
      k ≤ cs.length ∧ (cs.take k = [] ∨ (cs.take k).getLast? = some '\n') ∧
        classDeclaration.MatchesPrefix (cs.drop k) := by
  rw [HitAt, Option.or_none]
  simp only [Bool.or_eq_true, Option.isNone_iff_eq_none, beq_iff_eq, List.getLast?_eq_none_iff]

/-- A class declaration is searched for at every line start, and the blanks before `class` may
run over line ends; it is found exactly when some line begins with a declaration whose blanks
before `class` stay on that line. -/
theorem declaresClass_iff_hit {cs : List Char} :
    DeclaresClass cs ↔
      ∃ k, classDeclaration.HitAt (fun prev => prev.isNone || prev == some '\n') none cs k := by
  simp only [hitAt_classDeclaration_iff, matches_classDeclaration_iff]
  constructor
  · rintro ⟨pre, indent, gap, rest, c, rfl, start, inLine, gapped, spaced, wordy⟩
    refine ⟨pre.length, by simp, by simpa using start, indent, gap, rest, c, by simp,
      fun x inside => (inLine x inside).1, gapped, spaced, wordy⟩
  · rintro ⟨k, -, start, blanks, gap, rest, c, split, blank, gapped, spaced, wordy⟩
    have whole : cs = cs.take k ++ blanks ++ "class".toList ++ gap ++ c :: rest := by
      calc cs = cs.take k ++ cs.drop k := (List.take_append_drop k cs).symm
        _ = _ := by rw [split]; simp
    -- the blanks before `class` start at a line start; the line of `class` starts after their
    -- last line feed, if they hold one
    rcases no_feed_or_last_feed blanks with none | ⟨a, b, rfl, after⟩
    · refine ⟨cs.take k, blanks, gap, rest, c, whole, start, fun x inside => ⟨blank x inside, ?_⟩,
        gapped, spaced, wordy⟩
      rintro rfl
      exact none inside
    · refine ⟨cs.take k ++ a ++ ['\n'], b, gap, rest, c, whole.trans (by simp), by simp,
        fun x inside => ⟨blank x (by simp [inside]), ?_⟩, gapped, spaced, wordy⟩
      rintro rfl
      exact after inside

/-- The missing class declaration is reported exactly when the text declares no class at the
start of a line. -/
theorem class_declaration_found (path : String) (m : Manifest) :
    (DeclaresClass m.text.toList ∧ checkClassDeclaration path m = []) ∨
    (¬ DeclaresClass m.text.toList ∧
      checkClassDeclaration path m = [⟨path, .warn, "No class declaration found in manifest"⟩]) := by
  rw [checkClassDeclaration, searchLineStarts?]
  split
  · rename_i found
    obtain ⟨k, -, hit, -⟩ := searchFrom_eq_some found
    exact .inl ⟨declaresClass_iff_hit.mpr ⟨k, hit⟩, rfl⟩
  · rename_i missing
    refine .inr ⟨fun declared => ?_, rfl⟩
    obtain ⟨k, hit⟩ := declaresClass_iff_hit.mp declared
    exact searchFrom_eq_none_iff.mp missing k hit

end Puppet

end IacLint
