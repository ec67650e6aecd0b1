import Mathlib
import IacLint.Files.Walk
import IacLint.Proofs.Reach

/-!
# The files a walk yields, and their order

The walk from a root directory visits the names of each directory in code-point order,
goes down into real directories and asks every other entry whether its path resolves to a
regular file. What it yields is therefore fixed by the tree alone: the paths of the names
`c₁ … cₙ` that go down through real directories to a regular file, or to a link that
resolves to one, with a wanted suffix. Each is yielded once, and they come in strictly
increasing order of the names taken as tuples, which is not the order of the joined
strings (`a/z.tf` comes before `a.b/x.tf`).

A link that is missing its target is passed over, but not every link that fails to resolve
is: one whose resolution meets a loop of links or goes through a regular file makes the
walk fail, naming the entry.

## Main definitions

* `Wanted` — the names of a path the walk yields
* `LinksSettle` — every link below a directory resolves or is missing a name

## Main results

* `filesIn_ok` — the walk below a directory whose links settle
* `filesIn_error` — a link that fails otherwise makes the walk fail
* `mem_filesIn` — everything the walk yields is wanted
* `filesUnder_spec` — the walk from any root
-/

namespace IacLint.Files

/-! ## Code-point order and the monadic flat map -/

theorem sortNames_perm (ns : List String) : (sortNames ns).Perm ns := List.mergeSort_perm ns _

/-- Distinct names sorted are in strictly increasing code-point order. -/
theorem sortNames_sorted {ns : List String} (nodup : ns.Nodup) :
    (sortNames ns).Pairwise (· < ·) := by
  have ordered : (sortNames ns).Pairwise (fun a b => decide (a ≤ b) = true) :=
    List.pairwise_mergeSort
      (fun a b c hab hbc => by simp only [decide_eq_true_eq] at *; exact le_trans hab hbc)
      (fun a b => by simpa using le_total a b) ns
  have distinct : (sortNames ns).Nodup := (sortNames_perm ns).nodup_iff.mpr nodup
  exact (ordered.and distinct).imp fun ⟨le, ne⟩ => lt_of_le_of_ne (of_decide_eq_true le) ne

theorem mem_sortNames_childNames {t : Tree} {dir : List String} {n : String} :
    n ∈ sortNames (t.childNames dir) ↔ ∃ node, t.find? (dir ++ [n]) = some node := by
  rw [(sortNames_perm _).mem_iff, Tree.mem_childNames_iff_find?]

section FlatMapM

variable {ε α β : Type} {g : α → Except ε (List β)}

theorem flatMapM_ok {h : α → List β} {l : List α} (each : ∀ x ∈ l, g x = .ok (h x)) :
    l.flatMapM g = .ok (l.flatMap h) := by
  induction l with
  | nil => rfl
  | cons x l ih =>
    rw [List.flatMapM_cons, each x List.mem_cons_self,
      ih fun y member => each y (List.mem_cons_of_mem x member)]
    rfl

theorem flatMapM_error {l : List α} (failing : ∃ x ∈ l, ∃ e, g x = .error e) :
    ∃ e, l.flatMapM g = .error e := by
  induction l with
  | nil => simp at failing
  | cons x l ih =>
    rw [List.flatMapM_cons]
    cases hx : g x with
    | error e => exact ⟨e, rfl⟩
    | ok o =>
      obtain ⟨y, member, e, hy⟩ := failing
      rcases List.mem_cons.mp member with rfl | member
      · simp [hx] at hy
      · obtain ⟨e', he'⟩ := ih ⟨y, member, e, hy⟩
        exact ⟨e', by simp [bind, Except.bind, he']⟩

theorem mem_of_flatMapM_ok {l : List α} {out : List β} {y : β} (ok : l.flatMapM g = .ok out)
    (member : y ∈ out) : ∃ x ∈ l, ∃ o, g x = .ok o ∧ y ∈ o := by
  induction l generalizing out with
  | nil => simp_all [List.flatMapM_nil, pure, Except.pure]
  | cons x l ih =>
    rw [List.flatMapM_cons] at ok
    cases hx : g x with
    | error e => simp [hx, bind, Except.bind] at ok
    | ok o =>
      cases hl : l.flatMapM g with
      | error e => simp [hx, hl, bind, Except.bind] at ok
      | ok rest =>
        simp only [hx, hl, bind, Except.bind, pure, Except.pure, Except.ok.injEq] at ok
        subst ok
        rcases List.mem_append.mp member with here | later
        · exact ⟨x, List.mem_cons_self, o, hx, here⟩
        · obtain ⟨z, hz, o', ho', hy⟩ := ih hl later
          exact ⟨z, List.mem_cons_of_mem x hz, o', ho', hy⟩

end FlatMapM

variable {t : Tree} {exts : List String}

/-! ## What an entry that is not a directory adds -/

section Entry

variable {shown n : String}

theorem fileAt_of_file {loc : List String} {bs : List UInt8} {x : Bool}
    (isFile : t.stat (join shown n) = .ok (loc, .file bs x)) :
    fileAt t exts shown n =
      .ok (if exts.contains (suffix (join shown n)) then [join shown n] else []) := by
  simp [fileAt, isFile]

open Classical in
/-- An entry that is not a directory adds its path when it leads to a file with a wanted
suffix, and nothing otherwise, as long as resolving it fails only for a missing name. -/
theorem fileAt_eq (settles : ∀ e, t.stat (join shown n) = .error e → e = .noEntry) :
    fileAt t exts shown n =
      .ok (if (∃ loc bs x, t.stat (join shown n) = .ok (loc, .file bs x)) ∧
        suffix (join shown n) ∈ exts then [join shown n] else []) := by
  cases found : t.stat (join shown n) with
  | error e =>
    obtain rfl := settles e found
    simp [fileAt, found]
  | ok r =>
    obtain ⟨loc, node⟩ := r
    cases node with
    | file bs x => simp [fileAt_of_file found]
    | dir => simp [fileAt, found]
    | link target => simp [fileAt, found]

/-- An entry whose resolution fails for another reason than a missing name ends the walk,
naming the entry. -/
theorem fileAt_error {e : Errno} (failed : t.stat (join shown n) = .error e)
    (notMissing : e ≠ .noEntry) :
    fileAt t exts shown n = .error ⟨e, if shown == "." then "./" ++ n else join shown n⟩ := by
  cases e
  case noEntry => exact absurd rfl notMissing
  all_goals simp [fileAt, failed]

/-- What an entry adds is its own path, when that resolves to a file with a wanted
suffix. -/
theorem mem_fileAt {o : List String} {p : String} (ok : fileAt t exts shown n = .ok o)
    (member : p ∈ o) : p = join shown n ∧
      (∃ loc bs x, t.stat (join shown n) = .ok (loc, .file bs x)) ∧ suffix p ∈ exts := by
  cases found : t.stat (join shown n) with
  | error e =>
    -- only a missing name lets the check succeed, with nothing added
    cases e <;> simp [fileAt, found] at ok
    subst ok
    simp at member
  | ok r =>
    obtain ⟨loc, node⟩ := r
    cases node with
    | file bs x =>
      rw [fileAt_of_file found, Except.ok.injEq] at ok
      subst ok
      split_ifs at member with wanted
      · obtain rfl := List.mem_singleton.mp member
        exact ⟨rfl, ⟨loc, bs, x, rfl⟩, List.contains_iff_mem.mp wanted⟩
      · simp at member
    | dir | link =>
      simp [fileAt, found] at ok
      subst ok
      simp at member

end Entry

/-! ## The paths a walk yields -/

/-- The names `cs` below the directory at `dir` (shown as `shown`) are a file the walk
yields: they go down through real directories to a regular file, or to a link whose path
leads to one, and the path has a wanted suffix. -/
def Wanted (t : Tree) (exts : List String) (dir : List String) (shown : String)
    (cs : List String) : Prop :=
  ∃ node, t.Reaches dir cs node ∧
    ((∃ bs x, node = .file bs x) ∨ (∃ target, node = .link target) ∧
      ∃ loc bs x, t.stat (pathBelow shown cs) = .ok (loc, .file bs x)) ∧
    suffix (pathBelow shown cs) ∈ exts

/-- Every link reached through real directories below `dir` either resolves or is missing
a name on the way: resolving it ends in no other failure. -/
def LinksSettle (t : Tree) (dir : List String) (shown : String) : Prop :=
  ∀ cs target, t.Reaches dir cs (.link target) →
    ∀ e, t.stat (pathBelow shown cs) = .error e → e = .noEntry

section Wanted

variable {dir : List String} {shown n : String} {cs : List String}

theorem wanted_cons_iff :
    Wanted t exts dir shown (n :: cs) ↔
      (cs = [] ∧ Wanted t exts dir shown [n]) ∨
        (t.find? (dir ++ [n]) = some .dir ∧ Wanted t exts (dir ++ [n]) (join shown n) cs) := by
  constructor
  · rintro ⟨node, reached, kind, wanted⟩
    rcases Tree.reaches_cons_iff.mp reached with ⟨rfl, found⟩ | ⟨isDir, below⟩
    · exact .inl ⟨rfl, node, .here found, kind, wanted⟩
    · exact .inr ⟨isDir, node, below, kind, wanted⟩
  · rintro (⟨rfl, wanted⟩ | ⟨isDir, node, below, kind, wanted⟩)
    · exact wanted
    · exact ⟨node, .down isDir below, kind, wanted⟩

theorem wanted_single_iff :
    Wanted t exts dir shown [n] ↔ ∃ node, t.find? (dir ++ [n]) = some node ∧
      ((∃ bs x, node = .file bs x) ∨ (∃ target, node = .link target) ∧
        ∃ loc bs x, t.stat (join shown n) = .ok (loc, .file bs x)) ∧
      suffix (join shown n) ∈ exts := by
  constructor
  · rintro ⟨node, reached, kind, wanted⟩
    obtain ⟨-, found⟩ | ⟨-, below⟩ := Tree.reaches_cons_iff.mp reached
    · exact ⟨node, found, kind, wanted⟩
    · exact absurd rfl below.ne_nil
  · rintro ⟨node, found, kind, wanted⟩
    exact ⟨node, .here found, kind, wanted⟩

/-- A directory is never yielded itself. -/
theorem not_wanted_dir (isDir : t.find? (dir ++ [n]) = some .dir) :
    ¬ Wanted t exts dir shown [n] := by
  rintro ⟨node, reached, kind, -⟩
  obtain ⟨-, found⟩ | ⟨-, below⟩ := Tree.reaches_cons_iff.mp reached
  · rw [isDir, Option.some.injEq] at found
    subst found
    rcases kind with ⟨bs, x, h⟩ | ⟨⟨target, h⟩, -⟩ <;> cases h
  · exact absurd rfl below.ne_nil

/-- Below the normal form of a directory, a wanted path resolves to a regular file. -/
theorem Wanted.stat_file {a : Anchor} {ns : List String} (wf : t.WellFormed)
    (wanted : Wanted t exts dir (render a ns) cs) (segments : ∀ m ∈ ns, IsSegment m)
    (isDir : t.stat (render a ns) = .ok (dir, .dir)) :
    ∃ loc bs x, t.stat (pathBelow (render a ns) cs) = .ok (loc, .file bs x) := by
  obtain ⟨node, reached, kind, -⟩ := wanted
  rcases kind with ⟨bs, x, rfl⟩ | ⟨-, isFile⟩
  · have resolved := reached.stat_render wf (fun _ h => nomatch h) segments isDir
    rw [← pathBelow_render segments fun c member => (reached.validName wf c member).1] at resolved
    exact ⟨_, bs, x, resolved⟩
  · exact isFile

theorem LinksSettle.below (settle : LinksSettle t dir shown)
    (isDir : t.find? (dir ++ [n]) = some .dir) : LinksSettle t (dir ++ [n]) (join shown n) :=
  fun cs target reached => settle (n :: cs) target (.down isDir reached)

theorem LinksSettle.here {target : String} (settle : LinksSettle t dir shown)
    (found : t.find? (dir ++ [n]) = some (.link target)) :
    ∀ e, t.stat (join shown n) = .error e → e = .noEntry :=
  settle [n] target (.here found)

end Wanted

open Classical in
/-- Below the normal form of a directory whose links settle, an entry that is not a
directory adds its path exactly when it is wanted. -/
theorem fileAt_eq_wanted (wf : t.WellFormed) {a : Anchor} {ns dir : List String} {n : String}
    {node : Node} (segments : ∀ m ∈ ns, IsSegment m)
    (isDir : t.stat (render a ns) = .ok (dir, .dir)) (settle : LinksSettle t dir (render a ns))
    (found : t.find? (dir ++ [n]) = some node) (notDir : node ≠ .dir) :
    fileAt t exts (render a ns) n = .ok (if Wanted t exts dir (render a ns) [n]
      then [join (render a ns) n] else []) := by
  cases node with
  | dir => exact absurd rfl notDir
  | file bs x =>
    -- a file below the directory is what its path resolves to
    have isFile := t.stat_render_snoc segments isDir (wf.validName found) found
      (fun _ h => nomatch h)
    rw [← join_render segments] at isFile
    rw [fileAt_of_file isFile]
    congr 2
    refine propext (Iff.trans ?_ wanted_single_iff.symm)
    rw [List.contains_iff_mem]
    constructor
    · intro wanted
      exact ⟨_, found, .inl ⟨bs, x, rfl⟩, wanted⟩
    · rintro ⟨-, -, -, wanted⟩
      exact wanted
  | link target =>
    rw [fileAt_eq (settle.here found)]
    congr 2
    refine propext (Iff.trans ?_ wanted_single_iff.symm)
    simp [found]

/-! ## The walk below a directory -/

/-- Everything the walk yields below a directory is the path of wanted names. -/
theorem mem_filesIn {fuel : Nat} {dir : List String} {shown : String} {ps : List String}
    {p : String} (walked : filesIn t exts fuel dir shown = .ok ps) (member : p ∈ ps) :
    ∃ cs, Wanted t exts dir shown cs ∧ p = pathBelow shown cs := by
  induction fuel generalizing dir shown ps with
  | zero =>
    obtain rfl : ps = [] := by simpa [filesIn] using walked.symm
    simp at member
  | succ fuel ih =>
    rw [filesIn] at walked
    obtain ⟨n, named, o, entry, inside⟩ := mem_of_flatMapM_ok walked member
    obtain ⟨node, found⟩ := mem_sortNames_childNames.mp named
    simp only [found] at entry
    cases node with
    | dir =>
      obtain ⟨cs, wanted, rfl⟩ := ih entry inside
      exact ⟨n :: cs, wanted_cons_iff.mpr (.inr ⟨found, wanted⟩), rfl⟩
    | file bs x =>
      obtain ⟨rfl, -, wanted⟩ := mem_fileAt entry inside
      exact ⟨[n], ⟨_, .here found, .inl ⟨bs, x, rfl⟩, wanted⟩, rfl⟩
    | link target =>
      obtain ⟨rfl, isFile, wanted⟩ := mem_fileAt entry inside
      exact ⟨[n], ⟨_, .here found, .inr ⟨⟨target, rfl⟩, isFile⟩, wanted⟩, rfl⟩

/-- A link reached through real directories whose resolution fails for another reason
than a missing name ends the walk, as long as the walk goes deep enough to reach it. -/
theorem filesIn_error {fuel : Nat} {dir cs : List String} {shown target : String} {e : Errno}
    (reached : t.Reaches dir cs (.link target)) (deep : cs.length ≤ fuel)
    (failed : t.stat (pathBelow shown cs) = .error e) (notMissing : e ≠ .noEntry) :
    ∃ err, filesIn t exts fuel dir shown = .error err := by
  induction fuel generalizing dir cs shown with
  | zero => exact absurd (List.eq_nil_of_length_eq_zero (Nat.le_zero.mp deep)) reached.ne_nil
  | succ fuel ih =>
    obtain ⟨n, rest, rfl⟩ := List.exists_cons_of_ne_nil reached.ne_nil
    rw [filesIn]
    apply flatMapM_error
    rcases Tree.reaches_cons_iff.mp reached with ⟨rfl, found⟩ | ⟨isDir, below⟩
    · have stops : fileAt t exts shown n = .error _ := fileAt_error failed notMissing
      exact ⟨n, mem_sortNames_childNames.mpr ⟨_, found⟩, _,
        by simp only [found]; exact stops⟩
    · obtain ⟨err, walked⟩ := ih below (by simpa using deep) failed
      refine ⟨n, mem_sortNames_childNames.mpr ⟨_, isDir⟩, err, ?_⟩
      simp only [isDir]
      exact walked

/-- Below the normal form of a directory whose links all settle, and with fuel for its
depth, the walk yields the paths of exactly the wanted names, in strictly increasing order
of the names. The induction is on the fuel; each real directory below is walked by the
induction hypothesis, and the order comes from visiting names in code-point order. -/
theorem filesIn_ok (wf : t.WellFormed) (a : Anchor) (fuel : Nat) :
    ∀ (dir ns : List String), (∀ m ∈ ns, IsSegment m) →
      t.stat (render a ns) = .ok (dir, .dir) →
      (∀ cs node, t.Reaches dir cs node → cs.length ≤ fuel) →
      LinksSettle t dir (render a ns) →
      ∃ css : List (List String), css.Pairwise (· < ·) ∧
        (∀ cs, cs ∈ css ↔ Wanted t exts dir (render a ns) cs) ∧
        filesIn t exts fuel dir (render a ns) = .ok (css.map (pathBelow (render a ns))) := by
  induction fuel with
  | zero =>
    intro dir ns _ _ deep _
    refine ⟨[], List.Pairwise.nil, fun cs => ?_, rfl⟩
    simp only [List.not_mem_nil, false_iff]
    rintro ⟨node, reached, -⟩
    exact reached.ne_nil (List.eq_nil_of_length_eq_zero (Nat.le_zero.mp (deep cs node reached)))
  | succ fuel ih =>
    intro dir ns segments isDir deep settle
    have below : ∀ n, t.find? (dir ++ [n]) = some .dir → ∃ css : List (List String),
        css.Pairwise (· < ·) ∧
        (∀ cs, cs ∈ css ↔ Wanted t exts (dir ++ [n]) (join (render a ns) n) cs) ∧
        filesIn t exts fuel (dir ++ [n]) (join (render a ns) n) =
          .ok (css.map (pathBelow (join (render a ns) n))) := by
      intro n isSub
      have valid := wf.validName isSub
      have settleBelow := settle.below isSub
      rw [join_render segments] at settleBelow ⊢
      refine ih (dir ++ [n]) (ns ++ [n])
        (segments_append segments fun m last => List.mem_singleton.mp last ▸ valid.1)
        (t.stat_render_snoc segments isDir valid isSub (fun _ h => nomatch h)) ?_ settleBelow
      intro cs node reached
      simpa using deep (n :: cs) node (.down isSub reached)
    choose! sub sorted members walked using below
    classical
    set shown := render a ns
    -- what each name adds, as paths of names: a directory's wanted paths below it, or the
    -- name itself when it is wanted
    let G : String → List (List String) := fun n =>
      if t.find? (dir ++ [n]) = some .dir then (sub n).map (n :: ·)
      else if Wanted t exts dir shown [n] then [[n]] else []
    have heads : ∀ n, ∀ cs ∈ G n, ∃ rest, cs = n :: rest := by
      intro n cs member
      simp only [G] at member
      split_ifs at member
      · obtain ⟨rest, -, rfl⟩ := List.mem_map.mp member
        exact ⟨rest, rfl⟩
      · exact ⟨[], List.mem_singleton.mp member⟩
      · simp at member
    have names := sortNames_sorted (wf.nodup_childNames dir)
    refine ⟨(sortNames (t.childNames dir)).flatMap G, ?_, fun cs => ?_, ?_⟩
    · -- names are visited in increasing order and each one leads its paths
      refine List.pairwise_flatMap.mpr ⟨fun n _ => ?_, names.imp fun lt x hx y hy => ?_⟩
      · simp only [G]
        split_ifs with isSub
        · exact List.pairwise_map.mpr
            ((sorted n isSub).imp fun lt => List.cons_lt_cons_iff.mpr (.inr ⟨rfl, lt⟩))
        · exact List.pairwise_singleton _ _
        · exact List.Pairwise.nil
      · obtain ⟨_, rfl⟩ := heads _ x hx
        obtain ⟨_, rfl⟩ := heads _ y hy
        exact List.cons_lt_cons_iff.mpr (.inl lt)
    · rw [List.mem_flatMap]
      constructor
      · rintro ⟨n, -, member⟩
        simp only [G] at member
        split_ifs at member with isSub single
        · obtain ⟨rest, inner, rfl⟩ := List.mem_map.mp member
          exact wanted_cons_iff.mpr (.inr ⟨isSub, (members n isSub rest).mp inner⟩)
        · rw [List.mem_singleton.mp member]
          exact single
        · simp at member
      · intro wanted
        obtain ⟨node, reached, -⟩ := id wanted
        obtain ⟨n, rest, rfl⟩ := List.exists_cons_of_ne_nil reached.ne_nil
        have present : ∃ node, t.find? (dir ++ [n]) = some node := by
          rcases Tree.reaches_cons_iff.mp reached with ⟨-, found⟩ | ⟨isSub, -⟩
          · exact ⟨node, found⟩
          · exact ⟨.dir, isSub⟩
        refine ⟨n, mem_sortNames_childNames.mpr present, ?_⟩
        rcases wanted_cons_iff.mp wanted with ⟨rfl, single⟩ | ⟨isSub, inner⟩
        · have notSub : t.find? (dir ++ [n]) ≠ some .dir := fun isSub =>
            not_wanted_dir isSub single
          simp [G, notSub, single]
        · simp only [G, if_pos isSub]
          exact List.mem_map.mpr ⟨rest, (members n isSub rest).mpr inner, rfl⟩
    · rw [filesIn, List.map_flatMap]
      refine flatMapM_ok fun n member => ?_
      obtain ⟨node, found⟩ := mem_sortNames_childNames.mp member
      cases node with
      | dir =>
        simp only [found, G, if_true, walked n found, List.map_map]
        rfl
      | file _ _ | link _ =>
        have notSub : t.find? (dir ++ [n]) ≠ some .dir := by simp [found]
        simp only [found]
        rw [fileAt_eq_wanted wf segments isDir settle found (fun h => nomatch h)]
        simp only [G, if_neg notSub]
        split_ifs <;> rfl

/-- Distinct paths of valid names below a normal form are shown as distinct paths. -/
theorem nodup_map_pathBelow {a : Anchor} {ns : List String} {css : List (List String)}
    (segments : ∀ m ∈ ns, IsSegment m) (sorted : css.Pairwise (· < ·))
    (valid : ∀ cs ∈ css, ∀ c ∈ cs, ValidName c) :
    (css.map (pathBelow (render a ns))).Nodup := by
  refine List.Nodup.map_on (fun x hx y hy same => ?_) (sorted.imp ne_of_lt)
  have below : ∀ cs ∈ css, ∀ m ∈ ns ++ cs, IsSegment m := fun cs member =>
    segments_append segments fun c inside => (valid cs member c inside).1
  rw [pathBelow_render segments fun c inside => (valid x hx c inside).1,
    pathBelow_render segments fun c inside => (valid y hy c inside).1] at same
  exact List.append_cancel_left (render_injective (below x hx) (below y hy) same)

/-! ## The walk from a root -/

/-- A root in normal form that resolves to a file with a wanted suffix is yielded alone. -/
theorem filesUnder_file {p : String} {loc : List String} {node : Node} (normal : normalize p = p)
    (found : t.stat p = .ok (loc, node)) (notDir : node ≠ .dir) (wanted : suffix p ∈ exts) :
    filesUnder t p exts = .ok [p] := by
  cases node with
  | dir => exact absurd rfl notDir
  | file bs x => simp [filesUnder, normal, found, wanted]
  | link target => simp [filesUnder, normal, found, wanted]

/-- Every path the walk yields is, taken as a root of its own, a file the walk yields
alone: it is in normal form and resolves to a file with a wanted suffix. -/
theorem filesUnder_of_mem (ft : FileTree) {root p : String} {paths : List String}
    (walked : filesUnder ft.tree root exts = .ok paths) (member : p ∈ paths) :
    filesUnder ft.tree p exts = .ok [p] := by
  have topForm : normalize root = render (Anchor.ofPath root) (parts root) :=
    normalize_eq_render root
  have segments := parts_isSegment root
  unfold filesUnder at walked
  cases found : ft.tree.stat (normalize root) with
  | error e => simp [found] at walked
  | ok r =>
    obtain ⟨loc, node⟩ := r
    simp only [found] at walked
    cases node with
    | dir =>
      -- a file below the root: the path of wanted names, written below its normal form
      obtain ⟨cs, wanted, rfl⟩ := mem_filesIn walked member
      rw [topForm] at found wanted ⊢
      obtain ⟨node, reached, -, suffixWanted⟩ := id wanted
      have longer := segments_append segments fun c inside =>
        (reached.validName ft.wellFormed c inside).1
      obtain ⟨loc, bs, x, isFile⟩ := wanted.stat_file ft.wellFormed segments found
      rw [pathBelow_render segments fun c inside =>
        (reached.validName ft.wellFormed c inside).1] at isFile suffixWanted ⊢
      exact filesUnder_file (normalize_render longer) isFile (fun h => nomatch h) suffixWanted
    | file bs x | link target =>
      -- the root itself, yielded when its suffix is wanted
      simp only [Except.ok.injEq] at walked
      subst walked
      split_ifs at member with suffixWanted
      · obtain rfl := List.mem_singleton.mp member
        have normal : normalize (normalize root) = normalize root := by
          rw [topForm, normalize_render segments]
        exact filesUnder_file normal found (fun h => nomatch h)
          (List.contains_iff_mem.mp suffixWanted)
      · simp at member


/-- The walk from a root. From a directory whose links all settle it yields, once each,
the paths of the names that go down through real directories to a regular file or to a
link that resolves to one, with a wanted suffix, in strictly increasing order of the names
as tuples; a link that fails to resolve for another reason than a missing name makes it
fail. A root that is not a directory is yielded alone when its suffix is wanted, and a
root that cannot be resolved is a failure naming it. -/
theorem filesUnder_spec (ft : FileTree) (root : String) (exts : List String) :
    let t := ft.tree
    let top := normalize root
    (∀ dir, t.stat top = .ok (dir, .dir) →
      (LinksSettle t dir top →
        ∃ css : List (List String), css.Pairwise (· < ·) ∧
          (∀ cs, cs ∈ css ↔ Wanted t exts dir top cs) ∧
          filesUnder t root exts = .ok (css.map (pathBelow top)) ∧
          (css.map (pathBelow top)).Nodup) ∧
      (¬ LinksSettle t dir top → ∃ e, filesUnder t root exts = .error e)) ∧
    (∀ loc node, t.stat top = .ok (loc, node) → node ≠ .dir →
      filesUnder t root exts = .ok (if suffix top ∈ exts then [top] else [])) ∧
    ∀ e, t.stat top = .error e → filesUnder t root exts = .error ⟨e, top⟩ := by
  intro t top
  have wf := ft.wellFormed
  have named : normalize root = top := rfl
  have topForm : top = render (Anchor.ofPath root) (parts root) := normalize_eq_render root
  have segments := parts_isSegment root
  -- the walk of every tree is deep enough, since no path through it is longer than its entries
  have deep : ∀ dir cs node, t.Reaches dir cs node → cs.length ≤ t.entries.length + 1 :=
    fun _ _ _ reached => reached.length_le.trans (Nat.le_succ _)
  refine ⟨fun dir isDir => ⟨fun settle => ?_, fun unsettled => ?_⟩,
    fun loc node found notDir => ?_, fun e failed => ?_⟩
  · rw [topForm] at isDir settle
    obtain ⟨css, sorted, members, walked⟩ := filesIn_ok wf (Anchor.ofPath root)
      (t.entries.length + 1) dir (parts root) segments isDir (deep dir) settle
    rw [← topForm] at members walked isDir
    refine ⟨css, sorted, members, ?_, ?_⟩
    · simp only [filesUnder, named, isDir]
      exact walked
    · rw [topForm]
      refine nodup_map_pathBelow segments sorted fun cs member => ?_
      obtain ⟨node, reached, -⟩ := (members cs).mp member
      exact reached.validName wf
  · simp only [LinksSettle, not_forall] at unsettled
    obtain ⟨cs, target, reached, e, failed, notMissing⟩ := unsettled
    obtain ⟨err, walked⟩ := filesIn_error reached (deep dir cs _ reached) failed notMissing
    refine ⟨err, ?_⟩
    simp only [filesUnder, named, isDir]
    exact walked
  · cases node with
    | dir => exact absurd rfl notDir
    | file _ _ | link _ => simp [filesUnder, named, found]
  · simp [filesUnder, named, failed]

/-- A link through a regular file leads nowhere, yet the walk does not pass over it as it
does a link whose target is missing: resolving it fails for a path through a file, and the
walk fails with it rather than yielding the one file of the tree. -/
theorem filesUnder_link_through_file :
    filesUnder ⟨[(["a.tf"], .file [] false), (["b.tf"], .link "a.tf/x")]⟩ "." [".tf"] ≠
      .ok ["a.tf"] := by
  intro walked
  set t : Tree := ⟨[(["a.tf"], .file [] false), (["b.tf"], .link "a.tf/x")]⟩
  have top : normalize "." = "." := by decide
  have isDir : t.stat "." = .ok ([], .dir) := t.stat_render_nil .relative
  have linked : t.Reaches [] ["b.tf"] (.link "a.tf/x") := .here rfl
  have failed : t.stat (pathBelow "." ["b.tf"]) = .error .notDir := by
    have entry : Text.splitOnChar "b.tf" '/' = ["b.tf"] := by decide
    have target : Text.splitOnChar "a.tf/x" '/' = ["a.tf", "x"] := by decide
    simp [pathBelow, join, Tree.stat, Tree.locate, entry, target, Tree.locateFrom, Tree.find?,
      Tree.maxLinks, t]
  obtain ⟨err, stops⟩ : ∃ err, filesIn t [".tf"] (t.entries.length + 1) [] "." = .error err :=
    filesIn_error linked (by decide) failed (by decide)
  simp only [filesUnder, top, isDir, stops] at walked
  cases walked

end IacLint.Files
