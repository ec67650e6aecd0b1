import Mathlib
import IacLint.Terraform.Block

/-!
# Escapes in literal text

A text is literal when no interpolation marker `${` is left once its escapes `$${` are
removed, and its value is the text without its quotes, each escape turned back into a
marker. Both the check and the unescaping read the escapes from left to right without
overlap, so they can be followed on lists of characters: `replaceEscapes w` writes `w` for
each escape, and `replaceMarkers w` writes `w` for each marker.

Unescaping makes no marker of its own in a literal text: a kept `$` before a kept `{`
would be a marker that the check sees. So the markers of the value stand exactly where the
escapes stood, and escaping the value gives back the unquoted text.

The check removes the escapes, which can bring a `$` before an escape next to a `{` after
it; the check is therefore stricter than the reading that keeps each escape in its place.

## Main definitions

* `Text.ReplacesBy` — the equations of a left-to-right replacement
* `replaceEscapes`, `replaceMarkers` — escapes and markers replaced, on character lists
* `Quoted` — a text between double quotes

## Main results

* `Text.replaceAll_eq` — with enough fuel, replacing is any function with those equations
* `isLiteralText_iff` — the literal texts, on character lists
* `replaceMarkers_unescape` — the markers of an unescaped literal are its escapes
* `escape_literal_value` — escaping a literal's value gives back the text, unquoted
* `resolveLiteral_eq_dynamic_of_marker` — a marker outside the escapes is never literal
-/

namespace IacLint

namespace Text

/-- `f` replaces `old` by `new` from left to right without overlap: the equations that
`replaceChars` follows while its fuel lasts. -/
def ReplacesBy (old new : List Char) (f : List Char → List Char) : Prop :=
  f [] = [] ∧ ∀ c rest, f (c :: rest) =
    if !old.isEmpty && old.isPrefixOf (c :: rest) then new ++ f ((c :: rest).drop old.length)
    else c :: f rest

/-- With at least one step of fuel per character, `replaceChars` is the replacement. -/
theorem replaceChars_eq {old new : List Char} {f : List Char → List Char}
    (replaces : ReplacesBy old new f) {fuel : Nat} {cs : List Char} (enough : cs.length ≤ fuel) :
    replaceChars old new fuel cs = f cs := by
  induction fuel generalizing cs with
  | zero =>
    obtain rfl : cs = [] := List.length_eq_zero_iff.mp (by omega)
    simp [replaceChars, replaces.1]
  | succ fuel ih =>
    cases cs with
    | nil => simp [replaceChars, replaces.1]
    | cons c rest =>
      rw [replaces.2, replaceChars]
      split_ifs with found
      · -- a replaced occurrence is not empty, so what follows it is shorter
        have nonempty : old ≠ [] := by simpa using (Bool.and_eq_true_iff.mp found).1
        have shorter : ((c :: rest).drop old.length).length ≤ fuel := by
          have := List.length_pos_iff.mpr nonempty
          simp only [List.length_drop, List.length_cons] at enough ⊢
          omega
        rw [ih shorter]
      · have shorter : rest.length ≤ fuel := by
          rw [List.length_cons] at enough
          omega
        rw [ih shorter]

theorem replaceAll_eq {old new : String} {f : List Char → List Char}
    (replaces : ReplacesBy old.toList new.toList f) (s : String) :
    replaceAll s old new = String.ofList (f s.toList) := by
  have enough : s.toList.length ≤ s.length + 1 := by rw [String.length_toList]; omega
  rw [replaceAll, replaceChars_eq replaces enough]

theorem occursInChars_iff (needle hay : List Char) :
    occursInChars needle hay = true ↔ needle <:+: hay := by
  induction hay with
  | nil => simp [occursInChars, List.isEmpty_iff]
  | cons c rest ih => simp [occursInChars, List.infix_cons_iff, ih, List.isPrefixOf_iff_prefix]

end Text

namespace Terraform

/-- Each escape `$${`, read left to right, replaced by `w`. -/
def replaceEscapes (w : List Char) : List Char → List Char
  | '$' :: '$' :: '\x7b' :: rest => w ++ replaceEscapes w rest
  | c :: rest => c :: replaceEscapes w rest
  | [] => []

/-- Each marker `${`, read left to right, replaced by `w`. -/
def replaceMarkers (w : List Char) : List Char → List Char
  | '$' :: '\x7b' :: rest => w ++ replaceMarkers w rest
  | c :: rest => c :: replaceMarkers w rest
  | [] => []

theorem escapedMarker_toList : escapedMarker.toList = ['$', '$', '\x7b'] := by decide

theorem marker_toList : marker.toList = ['$', '\x7b'] := by decide

theorem replacesBy_escapes (w : List Char) :
    Text.ReplacesBy escapedMarker.toList w (replaceEscapes w) := by
  refine ⟨rfl, fun c rest => ?_⟩
  rw [escapedMarker_toList]
  by_cases escape : ∃ tail, c :: rest = '$' :: '$' :: '\x7b' :: tail
  · obtain ⟨tail, same⟩ := escape
    rw [same]
    simp [replaceEscapes]
  · simp only [not_exists] at escape
    rw [replaceEscapes.eq_2 _ _ _ (fun tail dollar more => escape tail (by simp [dollar, more]))]
    have differs : ¬ ['$', '$', '\x7b'].isPrefixOf (c :: rest) := by
      rw [List.isPrefixOf_iff_prefix]
      rintro ⟨tail, same⟩
      exact escape tail same.symm
    simp [differs]

theorem replacesBy_markers (w : List Char) :
    Text.ReplacesBy marker.toList w (replaceMarkers w) := by
  refine ⟨rfl, fun c rest => ?_⟩
  rw [marker_toList]
  by_cases found : ∃ tail, c :: rest = '$' :: '\x7b' :: tail
  · obtain ⟨tail, same⟩ := found
    rw [same]
    simp [replaceMarkers]
  · simp only [not_exists] at found
    rw [replaceMarkers.eq_2 _ _ _ (fun tail dollar more => found tail (by simp [dollar, more]))]
    have differs : ¬ ['$', '\x7b'].isPrefixOf (c :: rest) := by
      rw [List.isPrefixOf_iff_prefix]
      rintro ⟨tail, same⟩
      exact found tail same.symm
    simp [differs]

/-! ## Unescaping a literal text -/

/-- Writing each escape back as itself changes nothing. -/
theorem replaceEscapes_self (cs : List Char) : replaceEscapes ['$', '$', '\x7b'] cs = cs := by
  fun_induction replaceEscapes ['$', '$', '\x7b'] cs <;> simp_all

/-- A text that starts with `{` starts with no escape. -/
theorem replaceEscapes_brace (w rest : List Char) :
    replaceEscapes w ('\x7b' :: rest) = '\x7b' :: replaceEscapes w rest :=
  replaceEscapes.eq_2 _ _ _ (fun _ dollar _ => by simp at dollar)

/-- When escapes are written as a text that does not start with `{`, a `{` comes first
only where the text had one. -/
theorem eq_brace_of_replaceEscapes {c : Char} {w rest y : List Char} (notBrace : c ≠ '\x7b')
    (starts : replaceEscapes (c :: w) rest = '\x7b' :: y) : ∃ tail, rest = '\x7b' :: tail := by
  fun_cases replaceEscapes (c :: w) rest with
  | case1 tail =>
    simp only [replaceEscapes, List.cons_append, List.cons.injEq] at starts
    exact absurd starts.1 notBrace
  | case2 c' tail _ =>
    rw [replaceEscapes.eq_2 _ _ _ ‹_›, List.cons.injEq] at starts
    exact ⟨tail, by rw [starts.1]⟩
  | case3 => simp [replaceEscapes] at starts

/-- The markers of an unescaped text stand exactly where its escapes stood, when no marker
is left once the escapes are removed: replacing them by any text is replacing the escapes
by it. -/
theorem replaceMarkers_unescape (w : List Char) {cs : List Char}
    (literal : ¬ ['$', '\x7b'] <:+: replaceEscapes [] cs) :
    replaceMarkers w (replaceEscapes ['$', '\x7b'] cs) = replaceEscapes w cs := by
  fun_induction replaceEscapes ['$', '\x7b'] cs with
  | case1 rest ih =>
    simp only [replaceEscapes, List.nil_append] at literal ⊢
    simp [replaceMarkers, ih literal]
  | case2 c rest plain ih =>
    rw [replaceEscapes.eq_2 _ _ _ plain] at literal ⊢
    have later : ¬ ['$', '\x7b'] <:+: replaceEscapes [] rest :=
      fun inner => literal (inner.trans (List.suffix_cons c _).isInfix)
    -- a `$` kept before a `{` kept would be a marker left in the text
    have apart : ∀ y, c = '$' → replaceEscapes ['$', '\x7b'] rest = '\x7b' :: y → False := by
      intro y dollar starts
      obtain ⟨tail, rfl⟩ := eq_brace_of_replaceEscapes (by decide) starts
      apply literal
      rw [dollar, replaceEscapes_brace]
      exact (List.prefix_append ['$', '\x7b'] _).isInfix
    rw [replaceMarkers.eq_2 _ _ _ apart, ih later]
  | case3 => rfl

/-- A quote at the end of a text closes no escape. -/
theorem replaceEscapes_snoc (w xs : List Char) {c : Char} (notBrace : c ≠ '\x7b') :
    replaceEscapes w (xs ++ [c]) = replaceEscapes w xs ++ [c] := by
  fun_induction replaceEscapes w xs with
  | case1 rest ih => simp [replaceEscapes, ih]
  | case2 c' rest plain ih =>
    -- no escape begins at `c'` once `c` is added, since an escape ends on a `{`
    have plain' : ∀ tail, c' = '$' → rest ++ [c] = '$' :: '\x7b' :: tail → False := by
      intro tail dollar longer
      rcases rest with _ | ⟨a, _ | ⟨b, rest⟩⟩
      · simp at longer
      · simp only [List.cons_append, List.nil_append, List.cons.injEq] at longer
        exact notBrace longer.2.1
      · simp only [List.cons_append, List.cons.injEq] at longer
        exact plain rest dollar (by rw [longer.1, longer.2.1])
    rw [List.cons_append, replaceEscapes.eq_2 _ _ _ plain', ih, List.cons_append]
  | case3 => simp [replaceEscapes]

/-! ## Quotes -/

/-- A text written between double quotes. -/
def Quoted (s : String) : Prop := ∃ inner, s.toList = '"' :: inner ++ ['"']

theorem unquote_of_quoted {s : String} {inner : List Char}
    (quoted : s.toList = '"' :: inner ++ ['"']) : unquote s = String.ofList inner := by
  simp [unquote, quoted, List.getLast?_cons]

theorem unquote_of_not_quoted {s : String} (plain : ¬ Quoted s) : unquote s = s := by
  unfold unquote
  rw [if_neg]
  rintro ⟨long, first, last⟩
  obtain ⟨t, whole⟩ := List.head?_eq_some_iff.mp first
  have nonempty : t ≠ [] := by
    rintro rfl
    simp [whole] at long
  apply plain
  refine ⟨t.dropLast, ?_⟩
  rw [whole, List.getLast?_cons, List.getLast?_eq_some_getLast nonempty, Option.getD_some,
    Option.some.injEq] at last
  rw [whole, List.cons_append, ← last, List.dropLast_append_getLast nonempty]

/-- Once the escapes are gone, the unquoted text is a piece of the text: removing the
quotes uncovers no marker. -/
theorem replaceEscapes_unquote_within (s : String) :
    replaceEscapes [] (unquote s).toList <:+: replaceEscapes [] s.toList := by
  by_cases quoted : Quoted s
  · obtain ⟨inner, whole⟩ := quoted
    rw [unquote_of_quoted whole, String.toList_ofList, whole, List.cons_append,
      replaceEscapes.eq_2 _ _ _ (fun _ quote _ => by simp at quote),
      replaceEscapes_snoc _ _ (by decide)]
    exact ⟨['"'], ['"'], rfl⟩
  · rw [unquote_of_not_quoted quoted]

/-! ## The value of a literal text -/

/-- A text is literal when no marker is left once its escapes, read left to right, are
removed. -/
theorem isLiteralText_iff (s : String) :
    isLiteralText s = true ↔ ¬ ['$', '\x7b'] <:+: replaceEscapes [] s.toList := by
  rw [isLiteralText, Bool.not_eq_true', Text.occursIn, Text.replaceAll_eq (replacesBy_escapes _),
    String.toList_ofList, marker_toList, ← Bool.not_eq_true, Text.occursInChars_iff]
  rfl

theorem resolveLiteral_str_eq_ok {s r : String} :
    resolveLiteral (.str s) = .ok (.str r) ↔
      isLiteralText s = true ∧ Text.replaceAll (unquote s) escapedMarker marker = r := by
  rw [resolveLiteral]
  split_ifs with literal
  · simp [literal, pure, Except.pure]
  · simp [literal]

/-- Replacing the markers of a literal's value by any text is replacing the escapes of the
unquoted literal by it. -/
theorem replaceAll_markers_value {s r : String}
    (resolved : resolveLiteral (.str s) = .ok (.str r)) (w : String) :
    Text.replaceAll r marker w = Text.replaceAll (unquote s) escapedMarker w := by
  obtain ⟨literal, rfl⟩ := resolveLiteral_str_eq_ok.mp resolved
  have unquoted : ¬ ['$', '\x7b'] <:+: replaceEscapes [] (unquote s).toList :=
    fun inner => (isLiteralText_iff s).mp literal (inner.trans (replaceEscapes_unquote_within s))
  rw [Text.replaceAll_eq (replacesBy_markers _), Text.replaceAll_eq (replacesBy_escapes _),
    Text.replaceAll_eq (replacesBy_escapes _), String.toList_ofList, marker_toList,
    replaceMarkers_unescape _ unquoted]

/-- Escaping the markers of a literal's value gives back the literal without its quotes. -/
theorem escape_value {s r : String} (resolved : resolveLiteral (.str s) = .ok (.str r)) :
    Text.replaceAll r marker escapedMarker = unquote s := by
  rw [replaceAll_markers_value resolved, Text.replaceAll_eq (replacesBy_escapes _),
    escapedMarker_toList, replaceEscapes_self, String.ofList_toList]

/-- Escaping the markers of a literal text's value gives back the text without its quotes:
unescaping turns exactly the escapes `$${` into markers `${` and makes no other marker.
Replacing the markers of the value by any text is replacing the escapes of the unquoted
text by it, so the markers of the value stand one to one for the escapes of the text.
Two literal texts that are both quoted or both unquoted have one value only if they are
one text. -/
theorem escape_literal_value {s r : String} (resolved : resolveLiteral (.str s) = .ok (.str r)) :
    Text.replaceAll r marker escapedMarker = unquote s ∧
      (∀ w, Text.replaceAll r marker w = Text.replaceAll (unquote s) escapedMarker w) ∧
      ∀ t, (Quoted t ↔ Quoted s) → resolveLiteral (.str t) = .ok (.str r) → t = s := by
  refine ⟨escape_value resolved, replaceAll_markers_value resolved, fun t sameForm resolvedT => ?_⟩
  have unquoted : unquote t = unquote s :=
    (escape_value resolvedT).symm.trans (escape_value resolved)
  by_cases quoted : Quoted s
  · obtain ⟨inner, whole⟩ := quoted
    obtain ⟨innerT, wholeT⟩ := sameForm.mpr ⟨inner, whole⟩
    rw [unquote_of_quoted whole, unquote_of_quoted wholeT] at unquoted
    have same : innerT = inner := by simpa using congrArg String.toList unquoted
    rw [← String.toList_inj, whole, wholeT, same]
  · rwa [unquote_of_not_quoted quoted, unquote_of_not_quoted (mt sameForm.mp quoted)] at unquoted

/-- The value of `"a$${b"` is `a${b`, and escaping its marker gives back `a$${b`. -/
theorem escape_literal_value_quoted :
    resolveLiteral (.str "\"a$$\x7bb\"") = .ok (.str "a$\x7bb") ∧
      (Text.replaceAll "a$\x7bb" marker escapedMarker = unquote "\"a$$\x7bb\"" ∧
      (∀ w, Text.replaceAll "a$\x7bb" marker w =
        Text.replaceAll (unquote "\"a$$\x7bb\"") escapedMarker w) ∧
      ∀ t, (Quoted t ↔ Quoted "\"a$$\x7bb\"") → resolveLiteral (.str t) = .ok (.str "a$\x7bb") →
        t = "\"a$$\x7bb\"") :=
  have resolved : resolveLiteral (.str "\"a$$\x7bb\"") = .ok (.str "a$\x7bb") :=
    resolveLiteral_str_eq_ok.mpr ⟨by decide, by decide⟩
  ⟨resolved, escape_literal_value resolved⟩

/-! ## Markers outside the escapes -/

/-- A marker that is left when each escape is replaced by a placeholder other than `$` and
`{` is also left when the escapes are removed. -/
theorem marker_of_placeholder {p : Char} (notDollar : p ≠ '$') (notBrace : p ≠ '\x7b')
    {cs : List Char} (found : ['$', '\x7b'] <:+: replaceEscapes [p] cs) :
    ['$', '\x7b'] <:+: replaceEscapes [] cs := by
  fun_induction replaceEscapes [p] cs with
  | case1 rest ih =>
    simp only [replaceEscapes, List.singleton_append, List.nil_append] at found ⊢
    rcases List.infix_cons_iff.mp found with first | later
    · simp [notDollar.symm] at first
    · exact ih later
  | case2 c rest plain ih =>
    rw [replaceEscapes.eq_2 _ _ _ plain]
    rcases List.infix_cons_iff.mp found with first | later
    · -- the marker starts at `c`: a `$` kept before a `{` kept
      obtain ⟨tail, whole⟩ := first
      simp only [List.cons_append, List.nil_append, List.cons.injEq] at whole
      obtain ⟨dollar, starts⟩ := whole
      obtain ⟨tail', rfl⟩ := eq_brace_of_replaceEscapes notBrace starts.symm
      rw [← dollar, replaceEscapes_brace]
      exact (List.prefix_append ['$', '\x7b'] _).isInfix
    · exact (ih later).trans (List.suffix_cons c _).isInfix
  | case3 => simp at found

/-- A text in which some `$` outside the escapes stands right before a `{` outside the
escapes has no static value. The converse fails: removing an escape can bring a `$` before
it next to a `{` after it. -/
theorem resolveLiteral_eq_dynamic_of_marker {s : String} {p : Char} (notDollar : p ≠ '$')
    (notBrace : p ≠ '\x7b') (unescaped : ['$', '\x7b'] <:+: replaceEscapes [p] s.toList) :
    resolveLiteral (.str s) = .error .dynamic := by
  have notLiteral : isLiteralText s = false := by
    rw [Bool.eq_false_iff, ne_eq, isLiteralText_iff, not_not]
    exact marker_of_placeholder notDollar notBrace unescaped
  rw [resolveLiteral, notLiteral]
  rfl

end Terraform

end IacLint
