import Mathlib
import IacLint.Proofs.Escapes
import IacLint.Ansible.Checks

/-!
# References to variables in task texts

A task refers to a variable by writing `{{ name }}` in one of its text attributes. The text is
cut at every `{{`, left to right without overlap, and each piece after the first gives the
name up to its first `}}`, blanks stripped, unless that is empty.

So a reference written `{{`, blanks, a name, blanks, `}}` is always found, provided the `{{`
is not preceded by `{`: a `{` just before would make `{{` start one place earlier, and the
reference would begin with `{`. Each name found is not empty, has no blank at either end, and
holds neither `{{` nor `}}`.

Cutting at a two-character separator is followed on character lists by `splitPair`, which
needs no fuel; the cut that texts use is equal to it.

## Main definitions

* `Text.splitPair` — a character list cut at every occurrence of two characters

## Main results

* `Text.splitOnText_pair` — cutting a text at a separator of two characters is `splitPair`
* `Text.splitPair_append_pair` — an occurrence not overlapped from the left is a cut
* `Text.not_infix_of_mem_splitPair` — no piece holds the separator
* `Text.strip_strip`, `Text.stripChars_blank_append` — stripping blanks
* `template_references` — the names a task refers to
-/

namespace IacLint

namespace Text

/-! ## Cutting at two characters -/

/-- The pieces of a character list between occurrences of `a` followed by `b`, found left to
right without overlap; `cur` is the reversed piece begun so far. -/
def splitPair (a b : Char) : List Char → List Char → List String
  | [], cur => [String.ofList cur.reverse]
  | [c], cur => [String.ofList (c :: cur).reverse]
  | c :: d :: rest, cur =>
    if c = a ∧ d = b then String.ofList cur.reverse :: splitPair a b rest []
    else splitPair a b (d :: rest) (c :: cur)

section SplitPair

variable {a b : Char}

/-- With one step of fuel per character, cutting at `[a, b]` is `splitPair`. -/
theorem splitChars_pair {fuel : Nat} {cs : List Char} (cur : List Char)
    (enough : cs.length < fuel) : splitChars [a, b] fuel cs cur = splitPair a b cs cur := by
  induction fuel generalizing cs cur with
  | zero => omega
  | succ fuel ih =>
    match cs, enough with
    | [], _ => rfl
    | [c], enough =>
      have stop : splitChars [a, b] fuel [] (c :: cur) = [String.ofList (c :: cur).reverse] := by
        cases fuel with
        | zero => simp at enough
        | succ fuel => rfl
      simp [splitChars, splitPair, stop]
    | c :: d :: rest, enough =>
      simp only [List.length_cons] at enough
      by_cases found : c = a ∧ d = b
      · obtain ⟨rfl, rfl⟩ := found
        simp [splitChars, splitPair, ih [] (by omega : rest.length < fuel)]
      · have test : [a, b].isPrefixOf (c :: d :: rest) = false := by
          simp only [List.isPrefixOf, Bool.and_eq_false_iff, beq_eq_false_iff_ne]
          by_cases first : c = a
          · exact .inr (.inl fun second => found ⟨first, second.symm⟩)
          · exact .inl fun same => first same.symm
        simp only [splitChars, splitPair, if_neg found, test, Bool.and_false, Bool.false_eq_true,
          if_false]
        exact ih (c :: cur) (by simp only [List.length_cons]; omega)

/-- Cutting a text at a separator of two characters is `splitPair`. -/
theorem splitOnText_pair {sep : String} (two : sep.toList = [a, b]) (s : String) :
    splitOnText s sep = splitPair a b s.toList [] := by
  rw [splitOnText, two, splitChars_pair [] (by rw [String.length_toList]; omega)]

theorem splitPair_ne_nil (cs cur : List Char) : splitPair a b cs cur ≠ [] := by
  fun_induction splitPair a b cs cur <;> simp_all

/-- A character that does not start the separator lengthens the piece begun. -/
theorem splitPair_cons_of_ne {c : Char} (other : c ≠ a) (rest cur : List Char) :
    splitPair a b (c :: rest) cur = splitPair a b rest (c :: cur) := by
  cases rest with
  | nil => rfl
  | cons d rest => simp [splitPair, other]

/-- Characters none of which starts the separator all go into the piece begun. -/
theorem splitPair_append_of_forall_ne {u : List Char} (others : ∀ c ∈ u, c ≠ a)
    (v cur : List Char) : splitPair a b (u ++ v) cur = splitPair a b v (u.reverse ++ cur) := by
  induction u generalizing cur with
  | nil => rfl
  | cons c u ih =>
    rw [List.cons_append, splitPair_cons_of_ne (others c List.mem_cons_self),
      ih (fun x member => others x (List.mem_cons_of_mem c member))]
    simp

/-- An occurrence of the separator ends the piece begun. -/
theorem splitPair_pair (rest cur : List Char) :
    splitPair a b (a :: b :: rest) cur = String.ofList cur.reverse :: splitPair a b rest [] := by
  simp [splitPair]

/-- An occurrence of the separator that no occurrence overlaps from the left, because the
character before it does not start the separator, is a cut: the pieces are those before it
and those after it. -/
theorem splitPair_append_pair : (pre : List Char) → pre.getLast? ≠ some a →
    (rest cur : List Char) →
    splitPair a b (pre ++ a :: b :: rest) cur = splitPair a b pre cur ++ splitPair a b rest []
  | [], _, rest, cur => by simp [splitPair]
  | [c], notLast, rest, cur => by
    have other : c ≠ a := fun same => notLast (by simp [same])
    rw [List.singleton_append, splitPair_cons_of_ne other, splitPair_pair]
    rfl
  | c :: d :: pre, notLast, rest, cur => by
    rw [List.getLast?_cons_cons] at notLast
    by_cases found : c = a ∧ d = b
    · obtain ⟨ca, db⟩ := found
      -- what follows the occurrence keeps the last character
      have notLast' : pre.getLast? ≠ some a := by
        cases pre with
        | nil => simp
        | cons e pre => rwa [List.getLast?_cons_cons] at notLast
      have after := splitPair_append_pair pre notLast' rest []
      simp only [List.cons_append, ca, db, splitPair_pair, after]
    · simp only [List.cons_append, splitPair, if_neg found]
      exact splitPair_append_pair (d :: pre) notLast rest (c :: cur)

/-- The first piece is the piece begun, followed by a beginning of the rest of the list. -/
theorem head_splitPair (cs cur : List Char) :
    ∃ w, w <+: cs ∧ (splitPair a b cs cur).head? = some (String.ofList (cur.reverse ++ w)) := by
  fun_induction splitPair a b cs cur with
  | case1 cur => exact ⟨[], List.nil_prefix, by simp⟩
  | case2 c cur => exact ⟨[c], List.prefix_refl _, by simp⟩
  | case3 c d rest cur => exact ⟨[], List.nil_prefix, by simp⟩
  | case4 c d rest cur _ ih =>
    obtain ⟨w, begins, first⟩ := ih
    exact ⟨c :: w, List.cons_prefix_cons.mpr ⟨rfl, begins⟩, by simpa using first⟩

/-- No piece holds the separator, when the piece begun holds none and does not end in the
separator's first character right before its second. Pieces are kept reversed while they are
built, so the separator appears reversed in `cur`. -/
theorem not_infix_of_mem_splitPair {cs cur : List Char} (fresh : ¬ [b, a] <:+: cur)
    (open_ : cur.head? = some a → cs.head? ≠ some b) :
    ∀ p ∈ splitPair a b cs cur, ¬ [a, b] <:+: p.toList := by
  -- a piece is its reversed characters in order
  have closed : ∀ cur : List Char, ¬ [b, a] <:+: cur →
      ¬ [a, b] <:+: (String.ofList cur.reverse).toList :=
    fun cur fresh within => fresh (by
      rw [String.toList_ofList, ← List.reverse_infix] at within
      simpa using within)
  fun_induction splitPair a b cs cur with
  | case1 cur => simpa using closed cur fresh
  | case2 c cur =>
    refine fun p member => ?_
    rw [List.mem_singleton] at member
    subst member
    refine closed (c :: cur) fun within => ?_
    rcases List.infix_cons_iff.mp within with starts | inside
    · obtain ⟨rfl, rest⟩ := List.cons_prefix_cons.mp starts
      exact open_ (by cases cur <;> simp_all) rfl
    · exact fresh inside
  | case3 c d rest cur found ih =>
    intro p member
    rcases List.mem_cons.mp member with rfl | later
    · exact closed cur fresh
    · exact ih (by simp) (by simp) p later
  | case4 c d rest cur missed ih =>
    refine ih (fun within => ?_) (fun starts next => missed ⟨?_, ?_⟩)
    · rcases List.infix_cons_iff.mp within with starts | inside
      · obtain ⟨rfl, rest⟩ := List.cons_prefix_cons.mp starts
        exact open_ (by cases cur <;> simp_all) rfl
      · exact fresh inside
    · simpa using starts
    · simpa using next

end SplitPair

/-! ## Stripping blanks -/

/-- Stripping keeps a stretch of the list. -/
theorem stripChars_infix (cs : List Char) : stripChars cs <:+: cs := by
  have kept : stripChars cs <+: cs.dropWhile isBlank := by
    have reversed := List.reverse_prefix.mpr
      (List.dropWhile_suffix (l := (cs.dropWhile isBlank).reverse) isBlank)
    rwa [List.reverse_reverse] at reversed
  exact kept.isInfix.trans (List.dropWhile_suffix isBlank).isInfix

/-- A list whose first character is not blank loses nothing at its start. -/
theorem dropWhile_blank_of_head {cs : List Char}
    (first : ∀ c, cs.head? = some c → isBlank c = false) : cs.dropWhile isBlank = cs := by
  cases cs with
  | nil => rfl
  | cons c rest => simp [first c rfl]

/-- Stripping a stripped list changes nothing. -/
theorem stripChars_stripChars (cs : List Char) : stripChars (stripChars cs) = stripChars cs := by
  -- the stripped list is `tail` reversed, where `tail` is a suffix of `front` reversed
  have stripped : stripChars cs =
      ((cs.dropWhile isBlank).reverse.dropWhile isBlank).reverse := rfl
  -- its first character is the last of `tail`, which is the first of `front`
  have first : ∀ c, ((cs.dropWhile isBlank).reverse.dropWhile isBlank).reverse.head? = some c →
      isBlank c = false := by
    intro c starts
    rw [List.head?_reverse] at starts
    obtain ⟨t, whole⟩ := List.dropWhile_suffix (l := (cs.dropWhile isBlank).reverse) isBlank
    have nonempty : (cs.dropWhile isBlank).reverse.dropWhile isBlank ≠ [] := by
      intro empty
      rw [empty] at starts
      simp at starts
    have ends : (cs.dropWhile isBlank).head? = some c := by
      rw [← List.getLast?_reverse, ← whole, List.getLast?_append_of_ne_nil _ nonempty]
      exact starts
    have notBlank := List.head?_dropWhile_not isBlank cs
    rw [ends] at notBlank
    exact notBlank
  rw [stripped, stripChars, dropWhile_blank_of_head first, List.reverse_reverse,
    List.dropWhile_idempotent]

/-- Blanks around a list are stripped with the list's own. -/
theorem stripChars_blank_append {w1 w2 : List Char} (blank1 : ∀ c ∈ w1, isBlank c)
    (blank2 : ∀ c ∈ w2, isBlank c) (m : List Char) :
    stripChars (w1 ++ m ++ w2) = stripChars m := by
  have dropped : (w2.reverse ++ (m.dropWhile isBlank).reverse).dropWhile isBlank =
      (m.dropWhile isBlank).reverse.dropWhile isBlank :=
    List.dropWhile_append_of_pos (by simpa using blank2)
  rw [stripChars, stripChars, List.append_assoc, List.dropWhile_append_of_pos blank1,
    List.dropWhile_append]
  split
  · -- `m` is all blanks, and so is everything after the leading ones
    rename_i allBlank
    simp [List.isEmpty_iff.mp allBlank, List.dropWhile_eq_nil_iff.mpr blank2]
  · rw [List.reverse_append, dropped]

theorem strip_strip (s : String) : strip (strip s) = strip s := by
  simp [strip, stripChars_stripChars]

/-- A blank is not a brace, so blanks around a name never make or break an opening or
closing. -/
theorem ne_brace_of_isBlank {c : Char} (blank : isBlank c = true) :
    c ≠ '\x7b' ∧ c ≠ '\x7d' := by
  have braces : isBlank '\x7b' = false ∧ isBlank '\x7d' = false := by decide
  constructor <;> rintro rfl <;> simp [braces] at blank

end Text

namespace Ansible

open IacLint.Text

theorem opening_toList : "\x7b\x7b".toList = ['\x7b', '\x7b'] := by decide

theorem closing_toList : "\x7d\x7d".toList = ['\x7d', '\x7d'] := by decide

/-- `v` writes a reference to `n`: `{{`, blanks, `n`, blanks and `}}`, where the `{{` does not
follow a `{`. -/
def WritesReference (v n : String) : Prop :=
  ∃ pre post w1 w2 : String, v = pre ++ "\x7b\x7b" ++ w1 ++ n ++ w2 ++ "\x7d\x7d" ++ post ∧
    pre.toList.getLast? ≠ some '\x7b' ∧ (∀ c ∈ w1.toList, isBlank c) ∧ (∀ c ∈ w2.toList, isBlank c)

/-- A name a reference can be written with: not empty, without braces, and without blanks at
its ends. -/
def IsReferenceName (n : String) : Prop :=
  n ≠ "" ∧ '\x7b' ∉ n.toList ∧ '\x7d' ∉ n.toList ∧ strip n = n

/-- An opening that nothing overlaps from the left, then a stretch without braces and a
closing, name that stretch with its blanks stripped, when that is not empty. -/
theorem strip_mem_referencesIn {v : String} {pre mid post : List Char}
    (written : v.toList = pre ++ '\x7b' :: '\x7b' :: (mid ++ '\x7d' :: '\x7d' :: post))
    (notLast : pre.getLast? ≠ some '\x7b')
    (noBrace : ∀ c ∈ mid, c ≠ '\x7b' ∧ c ≠ '\x7d')
    (named : strip (String.ofList mid) ≠ "") : strip (String.ofList mid) ∈ referencesIn v := by
  have opens : occursIn "\x7b\x7b" v = true := by
    rw [occursIn, occursInChars_iff, opening_toList, written]
    exact ⟨pre, mid ++ '\x7d' :: '\x7d' :: post, by simp⟩
  have closes : occursIn "\x7d\x7d" v = true := by
    rw [occursIn, occursInChars_iff, closing_toList, written]
    exact ⟨pre ++ '\x7b' :: '\x7b' :: mid, post, by simp⟩
  -- the piece after the opening begins with the stretch and the closing
  have inPiece : ∀ c ∈ mid ++ ['\x7d', '\x7d'], c ≠ '\x7b' := by
    intro c member
    rcases List.mem_append.mp member with inside | closing
    · exact (noBrace c inside).1
    · obtain rfl : c = '\x7d' := by simpa using closing
      decide
  obtain ⟨w, -, first⟩ := head_splitPair (a := '\x7b') (b := '\x7b') post
    (mid ++ ['\x7d', '\x7d']).reverse
  have piece :
      String.ofList (mid ++ '\x7d' :: '\x7d' :: w) ∈ (splitOnText v "\x7b\x7b").drop 1 := by
    have after : mid ++ '\x7d' :: '\x7d' :: post = (mid ++ ['\x7d', '\x7d']) ++ post := by simp
    rw [splitOnText_pair opening_toList, written, splitPair_append_pair pre notLast,
      List.drop_append_of_le_length (List.length_pos_iff.mpr (splitPair_ne_nil _ _)), after,
      splitPair_append_of_forall_ne inPiece, List.append_nil]
    refine List.mem_append_right _ (List.mem_of_mem_head? ?_)
    rw [first]
    simp
  -- and it names the stretch
  have names : (splitOnText (String.ofList (mid ++ '\x7d' :: '\x7d' :: w)) "\x7d\x7d").headD "" =
      String.ofList mid := by
    rw [splitOnText_pair closing_toList, String.toList_ofList,
      splitPair_append_of_forall_ne (fun c member => (noBrace c member).2), splitPair_pair]
    simp
  unfold referencesIn
  rw [if_neg (by simp [opens, closes])]
  refine List.mem_filterMap.mpr ⟨_, piece, ?_⟩
  simp only [names]
  rw [if_neg (by simpa using named)]

/-- Every name found is not empty, has no blanks at its ends, and holds neither an opening nor
a closing. -/
theorem referencesIn_names {v m : String} (found : m ∈ referencesIn v) :
    m ≠ "" ∧ strip m = m ∧
      occursIn "\x7b\x7b" m = false ∧ occursIn "\x7d\x7d" m = false := by
  unfold referencesIn at found
  split_ifs at found
  · simp at found
  obtain ⟨part, member, named⟩ := List.mem_filterMap.mp found
  -- the piece holds no opening
  have noOpen : ¬ ['\x7b', '\x7b'] <:+: part.toList := by
    rw [splitOnText_pair opening_toList] at member
    exact not_infix_of_mem_splitPair (by simp) (by simp) part (List.mem_of_mem_drop member)
  -- its stretch up to the first closing holds neither
  obtain ⟨w, begins, first⟩ := head_splitPair (a := '\x7d') (b := '\x7d') part.toList []
  rw [List.reverse_nil, List.nil_append] at first
  have stretch : (splitOnText part "\x7d\x7d").headD "" = String.ofList w := by
    rw [splitOnText_pair closing_toList, List.headD_eq_head?_getD, first]
    rfl
  have noClose : ¬ ['\x7d', '\x7d'] <:+: w := by
    have pieceOf := not_infix_of_mem_splitPair (by simp) (by simp) (String.ofList w)
      (List.mem_of_mem_head?
        (first ▸ rfl : String.ofList w ∈ (splitPair '\x7d' '\x7d' part.toList []).head?))
    rwa [String.toList_ofList] at pieceOf
  have noOpen' : ¬ ['\x7b', '\x7b'] <:+: w := fun within => noOpen (within.trans begins.isInfix)
  simp only [stretch] at named
  split_ifs at named with empty
  cases named
  -- the name is a stretch of `w`
  have within : (strip (String.ofList w)).toList <:+: w := by
    rw [strip, String.toList_ofList, String.toList_ofList]
    exact stripChars_infix w
  refine ⟨fun blank => by simp [blank] at empty, strip_strip _, ?_, ?_⟩
  · rw [Bool.eq_false_iff, ne_eq, occursIn, occursInChars_iff, opening_toList]
    exact fun inside => noOpen' (inside.trans within)
  · rw [Bool.eq_false_iff, ne_eq, occursIn, occursInChars_iff, closing_toList]
    exact fun inside => noClose (inside.trans within)

/-- A reference written `{{`, blanks, a name, blanks and `}}` in a text attribute of a task,
where the `{{` does not follow a `{`, is found, whatever else the text holds; and every name
found is not empty, has no blanks at its ends, and holds neither `{{` nor `}}`. -/
theorem template_references (t : Task) :
    (∀ k v n, (k, v) ∈ t.textValues → WritesReference v n → IsReferenceName n →
      n ∈ referencedVariables t) ∧
    ∀ m ∈ referencedVariables t,
      m ≠ "" ∧ strip m = m ∧ occursIn "\x7b\x7b" m = false ∧ occursIn "\x7d\x7d" m = false := by
  constructor
  · rintro k v n text ⟨pre, post, w1, w2, rfl, notLast, blank1, blank2⟩
      ⟨nonempty, noOpen, noClose, trimmed⟩
    -- the stretch between the braces, with its blanks
    have noBrace : ∀ c ∈ w1.toList ++ n.toList ++ w2.toList, c ≠ '\x7b' ∧ c ≠ '\x7d' := by
      intro c member
      simp only [List.mem_append] at member
      rcases member with (blank | inside) | blank
      · exact ne_brace_of_isBlank (blank1 c blank)
      · exact ⟨fun same => noOpen (same ▸ inside), fun same => noClose (same ▸ inside)⟩
      · exact ne_brace_of_isBlank (blank2 c blank)
    have stripped : strip (String.ofList (w1.toList ++ n.toList ++ w2.toList)) = n := by
      rw [strip, String.toList_ofList, stripChars_blank_append blank1 blank2]
      exact trimmed
    have written : (pre ++ "\x7b\x7b" ++ w1 ++ n ++ w2 ++ "\x7d\x7d" ++ post).toList =
        pre.toList ++ '\x7b' :: '\x7b' ::
          ((w1.toList ++ n.toList ++ w2.toList) ++ '\x7d' :: '\x7d' :: post.toList) := by
      simp only [String.toList_append, opening_toList, closing_toList, List.append_assoc,
        List.cons_append, List.nil_append]
    have found := strip_mem_referencesIn written notLast noBrace (by rw [stripped]; exact nonempty)
    rw [stripped] at found
    exact List.mem_flatMap.mpr ⟨(k, _), text, found⟩
  · intro m found
    obtain ⟨kv, -, inText⟩ := List.mem_flatMap.mp found
    exact referencesIn_names inText

/-- The reference of a command line that echoes a variable is found. -/
theorem template_references_echo :
    "x" ∈ referencedVariables ⟨[("cmd", .str "echo \x7b\x7b x \x7d\x7d")]⟩ := by
  have space : isBlank ' ' = true := by decide
  have blank : ∀ c ∈ " ".toList, isBlank c := by simpa using space
  exact (template_references _).1 "cmd" "echo \x7b\x7b x \x7d\x7d" "x" (by decide)
    ⟨"echo ", "", " ", " ", by decide, by decide, blank, blank⟩
    ⟨by decide, by decide, by decide, by decide⟩

end Ansible

end IacLint
