import TypeProjection.Proofs.LoadedFiles

/-!
# Files that are found

Inputs are texts, and what they mean is found by cutting texts into names and joining names to
texts. In a tree where every entry stands in folders, each path that is found this way leads to
something, and so does the place that it means. So a collected file is there, and has a name.
-/

namespace TypeProjection

/-! Texts with marks. -/

namespace Text

variable {mark : Char} {cs : List Char}

theorem pieces_ne_nil (mark : Char) (cs : List Char) : pieces mark cs ≠ [] := by
  cases cs with
  | nil => exact List.cons_ne_nil _ _
  | cons c cs =>
    rw [pieces]
    split
    · exact List.cons_ne_nil _ _
    · split <;> exact List.cons_ne_nil _ _

theorem pieces_append (mark : Char) (cs ds : List Char) :
    pieces mark (cs ++ mark :: ds) = pieces mark cs ++ pieces mark ds := by
  induction cs with
  | nil =>
    rw [List.nil_append, pieces.eq_2, if_pos rfl]
    rfl
  | cons c cs ih =>
    rw [List.cons_append, pieces, pieces, ih]
    split
    · rfl
    · cases hcs : pieces mark cs with
      | nil => exact absurd hcs (pieces_ne_nil mark cs)
      | cons p ps => rfl

theorem pieces_of_not_mem (h : mark ∉ cs) : pieces mark cs = [cs] := by
  induction cs with
  | nil => rfl
  | cons c cs ih =>
    rw [List.mem_cons, not_or] at h
    rw [pieces, if_neg (fun hc => h.1 hc.symm), ih h.2]

end Text

/-! Names in paths. -/

namespace Path

variable {s : String} {cs ds : List Char} {p : Path} {names : List String}

/-- A text that is one name of a path, and leads forward. -/
structure IsName (s : String) : Prop where
  noSlash : '/' ∉ s.toList
  notEmpty : s ≠ ""
  notHere : s ≠ "."
  notBack : s ≠ ".."

theorem namesOf_cut (h : s.toList = cs ++ '/' :: ds) :
    namesOf s = namesOf (String.ofList cs) ++ namesOf (String.ofList ds) := by
  rw [namesOf, h, Text.pieces_append, List.map_append, List.filter_append, namesOf, namesOf,
    String.toList_ofList, String.toList_ofList]

theorem namesOf_empty : namesOf "" = [] := by decide

theorem namesOf_name (h : IsName s) : namesOf s = [s] := by
  rw [namesOf, Text.pieces_of_not_mem h.noSlash, List.map_singleton, String.ofList_toList]
  exact List.filter_eq_self.mpr fun n hn => by
    rw [List.mem_singleton.mp hn]
    simpa using ⟨h.notEmpty, h.notHere⟩

/-- Names that are joined by slashes are read back. -/
theorem namesOf_intercalate (h : ∀ n ∈ names, IsName n) :
    namesOf (String.intercalate "/" names) = names := by
  induction names with
  | nil => exact namesOf_empty
  | cons n names ih =>
    obtain ⟨hn, hnames⟩ := List.forall_mem_cons.mp h
    cases names with
    | nil =>
      rw [String.intercalate_singleton]
      exact namesOf_name hn
    | cons m names =>
      have hcut : (String.intercalate "/" (n :: m :: names)).toList =
          n.toList ++ '/' :: (String.intercalate "/" (m :: names)).toList := by
        rw [String.intercalate_cons_cons, String.toList_append, String.toList_append,
          List.append_assoc]
        simp
      rw [namesOf_cut hcut, String.ofList_toList, String.ofList_toList, namesOf_name hn, ih hnames]
      rfl

theorem isAbsolute_ofText : (ofText s).isAbsolute = (s.toList.head? == some '/') := by
  unfold isAbsolute ofText rootOf
  cases s.toList with
  | nil => rfl
  | cons c cs =>
    rw [List.head?_cons, List.takeWhile_cons]
    by_cases hc : c = '/'
    · subst hc
      rw [if_pos (by decide)]
      dsimp only
      split
      · contradiction
      · rfl
      · rfl
    · rw [if_neg (by simpa using hc)]
      simpa using hc

end Path

namespace FileTree

variable {t : FileTree} {p q here : Place} {names : List String} {n d s : String} {node : FileNode}

/-! Joining and cutting texts. -/

/-- Texts that start alike and have the same names lead to the same place. -/
theorem place?_ofText_congr {s s' : String} (hhead : s.toList.head? = s'.toList.head?)
    (hnames : Path.namesOf s = Path.namesOf s') :
    t.place? (Path.ofText s) = t.place? (Path.ofText s') := by
  rw [place?, place?, start, start, Path.isAbsolute_ofText, Path.isAbsolute_ofText, hhead]
  exact congrArg (t.follow _) hnames

theorem head?_joinPath (hd : d ≠ "") (n : String) :
    (joinPath d n).toList.head? = d.toList.head? := by
  have happend : ∀ e : String, (d ++ e).toList.head? = d.toList.head? := by
    intro e
    rw [String.toList_append]
    exact List.head?_append_of_ne_nil _ fun h => hd (String.toList_eq_nil_iff.mp h)
  unfold joinPath
  split
  · split
    · rfl
    · exact happend _
  · split
    · exact happend _
    · rw [String.append_assoc]
      exact happend _

/-- A name that is joined to a folder stands behind the names of the folder. -/
theorem namesOf_joinPath (d n : String) :
    Path.namesOf (joinPath d n) = Path.namesOf d ++ Path.namesOf n := by
  have hslash : d.toList.getLast? = some '/' → ∀ e : String,
      Path.namesOf (d ++ e) = Path.namesOf d ++ Path.namesOf e := by
    intro hlast e
    obtain ⟨cs, hcs⟩ := List.getLast?_eq_some_iff.mp hlast
    have hcut : (d ++ e).toList = cs ++ '/' :: e.toList := by
      rw [String.toList_append, hcs, List.append_assoc]
      rfl
    rw [Path.namesOf_cut hcut, Path.namesOf_cut hcs, String.ofList_toList]
    exact congrArg (· ++ _) (List.append_nil _).symm
  have hbetween : ∀ e : String, Path.namesOf (d ++ "/" ++ e) =
      Path.namesOf d ++ Path.namesOf e := by
    intro e
    have hcut : (d ++ "/" ++ e).toList = d.toList ++ '/' :: e.toList := by simp
    rw [Path.namesOf_cut hcut, String.ofList_toList, String.ofList_toList]
  unfold joinPath
  split
  · next hn =>
    obtain rfl : n = "" := by simpa using (Bool.and_eq_true_iff.mp hn).1
    rw [Path.namesOf_empty, List.append_nil]
    split
    · rfl
    · have h := hbetween ""
      rwa [String.append_empty, Path.namesOf_empty, List.append_nil] at h
  · split
    · next hd =>
      rw [Bool.or_eq_true, beq_iff_eq, beq_iff_eq] at hd
      rcases hd with rfl | hlast
      · rw [String.empty_append, Path.namesOf_empty, List.nil_append]
      · exact hslash hlast n
    · exact hbetween n

/-- Slashes at the end add no names. -/
theorem namesOf_slashes {slashes : List Char} (h : ∀ c ∈ slashes, c = '/') (cs : List Char) :
    Path.namesOf (String.ofList (cs ++ slashes)) = Path.namesOf (String.ofList cs) := by
  induction slashes generalizing cs with
  | nil => rw [List.append_nil]
  | cons c slashes ih =>
    obtain ⟨rfl, hslashes⟩ := List.forall_mem_cons.mp h
    have hcut : (String.ofList (cs ++ '/' :: slashes)).toList = cs ++ '/' :: slashes :=
      String.toList_ofList
    have hrest := ih hslashes []
    rw [List.nil_append] at hrest
    rw [Path.namesOf_cut hcut, hrest]
    exact List.append_nil _

/-- A text is its folder, the slashes behind it and its last name. -/
theorem cutPath_cases (s : String) : cutPath s = ("", s) ∨
    ∃ folder slashes last : List Char, cutPath s = (String.ofList folder, String.ofList last) ∧
      s.toList = folder ++ slashes ++ last ∧ folder ≠ [] ∧ (∀ c ∈ slashes, c = '/') ∧
      (folder ++ slashes).getLast? = some '/' := by
  generalize hlast : s.toList.reverse.takeWhile (· != '/') = last
  generalize hrest : s.toList.reverse.dropWhile (· != '/') = rest
  have hreverse : s.toList.reverse = last ++ rest := by
    rw [← hlast, ← hrest, List.takeWhile_append_dropWhile]
  have hsplit : s.toList = rest.reverse ++ last.reverse := by
    rw [← List.reverse_append, ← hreverse, List.reverse_reverse]
  have htake : s.toList.take (s.length - last.reverse.length) = rest.reverse := by
    rw [← String.length_toList, hsplit, List.length_append, Nat.add_sub_cancel, List.take_left]
  have hcut : cutPath s = (String.ofList (if ((rest.dropWhile (· == '/')).reverse).isEmpty
      then rest.reverse else (rest.dropWhile (· == '/')).reverse), String.ofList last.reverse) := by
    unfold cutPath
    dsimp only
    rw [hlast, htake, List.reverse_reverse]
  cases rest with
  | nil =>
    left
    rw [hcut, show last.reverse = s.toList by rw [hsplit]; rfl, String.ofList_toList]
    rfl
  | cons c rest =>
    right
    have hc : c = '/' := by
      have h := List.head?_dropWhile_not (· != '/') s.toList.reverse
      rw [hrest] at h
      simpa using h
    subst hc
    have hends : ('/' :: rest).reverse.getLast? = some '/' := by
      rw [List.getLast?_reverse, List.head?_cons]
    have htrim : (('/' :: rest).dropWhile (· == '/')).reverse ++
        (('/' :: rest).takeWhile (· == '/')).reverse = ('/' :: rest).reverse := by
      rw [← List.reverse_append, List.takeWhile_append_dropWhile]
    split at hcut
    · exact ⟨_, [], _, hcut, by rw [List.append_nil, hsplit], by simp, by simp,
        by rw [List.append_nil, hends]⟩
    · next htrimmed =>
      refine ⟨_, (('/' :: rest).takeWhile (· == '/')).reverse, _, hcut, by rw [htrim, hsplit],
        fun h => htrimmed (by rw [h]; rfl), fun c hc => ?_, by rw [htrim, hends]⟩
      exact beq_iff_eq.mp (List.all_eq_true.mp List.all_takeWhile c (List.mem_reverse.mp hc))

/-- What a text is cut into leads where the text leads. -/
theorem place?_cutPath (s : String) :
    t.place? (Path.ofText (joinPath (cutPath s).1 (cutPath s).2)) = t.place? (Path.ofText s) := by
  rcases cutPath_cases s with hcut | ⟨folder, slashes, last, hcut, hs, hne, hslashes, hends⟩
  · have hjoin : joinPath "" s = s := by
      rw [joinPath, if_neg (by simp), if_pos (by decide), String.empty_append]
    rw [hcut, hjoin]
  · rw [hcut]
    have hfolder : String.ofList folder ≠ "" := fun h => hne (by simpa using h)
    refine place?_ofText_congr ?_ ?_
    · rw [head?_joinPath hfolder, String.toList_ofList, hs, List.append_assoc,
        List.head?_append_of_ne_nil _ hne]
    · obtain ⟨cs, hcs⟩ := List.getLast?_eq_some_iff.mp hends
      have hnames : Path.namesOf (String.ofList folder) = Path.namesOf (String.ofList cs) := by
        rw [← namesOf_slashes hslashes, hcs]
        exact namesOf_slashes (by simp) cs
      have hcut : s.toList = cs ++ '/' :: last := by
        rw [hs, hcs, List.append_assoc]
        rfl
      rw [namesOf_joinPath, hnames, Path.namesOf_cut hcut]

/-! What stands where. -/

/-- Every entry has a proper name and stands in folders. -/
structure Proper (t : FileTree) : Prop where
  home : Plain t.home
  names : ∀ e ∈ t.entries, ∀ n ∈ e.1, Path.IsName n
  folders : ∀ e ∈ t.entries, ∀ q, q <+: e.1 → q ≠ e.1 → t.isFolderAt q = true

/-- All folders on the way to a place are there. -/
def Grounded (t : FileTree) (p : Place) : Prop := ∀ q, q <+: p → q ≠ p → t.isFolderAt q = true

theorem isFolderAt_of_prefix_home (h : p <+: t.home) : t.isFolderAt p = true := by
  rw [isFolderAt_iff, node?, if_pos (List.isPrefixOf_iff_prefix.mpr h)]

theorem grounded_start (p : Path) : t.Grounded (t.start p) := by
  intro q hq hne
  unfold start at hq hne
  split at hne
  · next habsolute =>
    rw [if_pos habsolute] at hq
    exact absurd (List.prefix_nil.mp hq) hne
  · next habsolute =>
    rw [if_neg habsolute] at hq
    exact isFolderAt_of_prefix_home hq

theorem Grounded.child (h : t.Grounded p) (hp : t.isFolderAt p = true) (n : String) :
    t.Grounded (p ++ [n]) := by
  intro q hq hne
  rcases List.prefix_concat_iff.mp hq with rfl | hq
  · exact absurd rfl hne
  · by_cases hqp : q = p
    · rwa [hqp]
    · exact h q hq hqp

theorem Grounded.parent (h : t.Grounded p) : t.Grounded p.dropLast := by
  intro q hq hne
  refine h q (hq.trans (List.dropLast_prefix p)) fun heq => hne ?_
  subst heq
  exact hq.eq_of_length_le (by rw [List.length_dropLast]; omega)

/-- A place that names lead to from a grounded place is grounded. -/
theorem grounded_of_follow (hhere : t.Grounded here) (h : t.follow here names = some p) :
    t.Grounded p := by
  induction names generalizing here with
  | nil =>
    obtain ⟨n, -, rfl⟩ := Option.map_eq_some_iff.mp h
    exact hhere
  | cons n names ih =>
    rw [follow] at h
    split at h
    · cases h
    · next hfolder =>
      split at h
      · exact ih hhere.parent h
      · exact ih (hhere.child (by simpa using hfolder) n) h

/-- Names that lead forward through folders to something are followed to it. -/
theorem follow_grounded (hnames : ".." ∉ names) (hgrounded : t.Grounded (here ++ names))
    (hnode : (t.node? (here ++ names)).isSome = true) :
    t.follow here names = some (here ++ names) := by
  induction names generalizing here with
  | nil =>
    obtain ⟨n, hn⟩ := Option.isSome_iff_exists.mp hnode
    rw [List.append_nil] at hn ⊢
    rw [follow, hn]
    rfl
  | cons n names ih =>
    have hsplit : here ++ n :: names = here ++ [n] ++ names := by simp
    rw [List.mem_cons, not_or] at hnames
    have hfolder : t.isFolderAt here = true :=
      hgrounded here (List.prefix_append _ _) fun h => by simpa using congrArg List.length h
    have hforward : ¬ (n == "..") = true := by simpa using fun h : n = ".." => hnames.1 h.symm
    rw [follow, hfolder, if_neg (by decide), if_neg hforward, hsplit]
    rw [hsplit] at hgrounded hnode
    exact ih hnames.2 hgrounded hnode

/-- The place that a path leads to is there. -/
theorem place?_resolve (hp : Plain t.home) {a : Path} (h : (t.place? a).isSome = true) :
    t.place? ⟨"/", t.resolve a⟩ = some (t.resolve a) := by
  obtain ⟨p, hplace⟩ := Option.isSome_iff_exists.mp h
  have hresolve : t.resolve a = p := follow_eq_foldl hplace
  have hgrounded : t.Grounded ([] ++ t.resolve a) := by
    rw [List.nil_append, hresolve]
    exact grounded_of_follow (grounded_start a) hplace
  have hnode : (t.node? ([] ++ t.resolve a)).isSome = true := by
    rw [List.nil_append, hresolve]
    exact isSome_node?_of_follow hplace
  exact follow_grounded (plain_resolve hp a) hgrounded hnode

/-! What inputs mean. -/

/-- Names that a folder leads along are joined to the folder. -/
theorem has_joinPath (hd : t.place? (Path.ofText d) = some p)
    (hn : t.follow p (Path.namesOf n) = some q) (hrelative : n.toList.head? ≠ some '/') :
    t.has (Path.ofText (joinPath d n)) = true := by
  have hstart : t.start (Path.ofText (joinPath d n)) = t.start (Path.ofText d) := by
    rw [start, start, Path.isAbsolute_ofText, Path.isAbsolute_ofText]
    by_cases hempty : d = ""
    · subst hempty
      have hjoin : joinPath "" n = n := by
        rw [joinPath, if_neg (by simp), if_pos (by decide), String.empty_append]
      have hfirst : (n.toList.head? == some '/') = false := by simpa using hrelative
      rw [hjoin, hfirst]
      rfl
    · rw [head?_joinPath hempty]
  have hfollow : t.follow (t.start (Path.ofText (joinPath d n)))
      (Path.namesOf d ++ Path.namesOf n) = some q := by
    rw [hstart]
    exact (follow_append hd _).trans hn
  rw [← namesOf_joinPath] at hfollow
  exact Option.isSome_iff_exists.mpr ⟨q, hfollow⟩

/-- No name leads from a folder to the folder itself. -/
theorem has_joinPath_empty (h : (t.folderPlace? d).isSome = true) :
    t.has (Path.ofText (joinPath d "")) = true := by
  obtain ⟨p, hp⟩ := Option.isSome_iff_exists.mp h
  have hplace := (Option.filter_eq_some_iff.mp hp).1
  refine has_joinPath hplace (q := p) ?_ (by simp)
  obtain ⟨node, hnode⟩ := Option.isSome_iff_exists.mp (isSome_node?_of_follow hplace)
  rw [Path.namesOf_empty, follow, hnode]
  rfl

theorem has_nameIn (h : n ∈ t.nameIn d s) : t.has (Path.ofText (joinPath d n)) = true := by
  unfold nameIn at h
  split at h
  · split at h
    · next hfolder =>
      rw [List.mem_singleton.mp h]
      exact has_joinPath_empty hfolder
    · cases h
  · split at h
    · next hhas => rwa [List.mem_singleton.mp h]
    · cases h

/-- A path ends in a proper name of a source file. -/
def NamesSource (a : Path) : Prop := ∃ names n, a.parts = names ++ [n] ∧ n ≠ "" ∧ n ≠ ".."

theorem namesSource_of_suffix {a : Path} (h : a.suffix = sourceSuffix) : NamesSource a := by
  have hname : a.name ≠ "" ∧ a.name ≠ ".." := by
    constructor
    · intro hempty
      rw [Path.suffix, hempty] at h
      exact absurd h (by decide)
    · intro hback
      rw [Path.suffix, hback] at h
      exact absurd h (by decide)
  rcases List.eq_nil_or_concat a.parts with hnil | ⟨names, n, hparts⟩
  · rw [Path.name, hnil] at hname
    exact absurd rfl hname.1
  · rw [List.concat_eq_append] at hparts
    rw [Path.name, hparts, List.getLast?_concat] at hname
    exact ⟨names, n, hparts, hname⟩

section Proper

variable (ht : t.Proper)

include ht

/-- Names lead from a folder to the entries below it. -/
theorem Proper.follow_below (h : (names, node) ∈ t.below p) :
    t.follow p names = some (p ++ names) ∧ names ≠ [] ∧ ∀ n ∈ names, Path.IsName n := by
  obtain ⟨e, he, hbelow⟩ := List.mem_filterMap.mp h
  split at hbelow
  · next hprefix =>
    cases hbelow
    rw [Bool.and_eq_true, List.isPrefixOf_iff_prefix, decide_eq_true_eq] at hprefix
    obtain ⟨rest, hrest⟩ := hprefix.1
    have hdrop : e.1.drop p.length = rest := by rw [← hrest, List.drop_left]
    rw [hdrop]
    have hproper : ∀ n ∈ rest, Path.IsName n := fun n hn =>
      ht.names e he n (by rw [← hrest]; exact List.mem_append_right _ hn)
    refine ⟨follow_grounded (fun hback => (hproper _ hback).notBack rfl) ?_ ?_, ?_, hproper⟩
    · rw [hrest]
      exact ht.folders e he
    · rw [hrest, node?]
      split
      · rfl
      · exact List.lookup_isSome_iff.mpr ⟨e, he, beq_self_eq_true e.1⟩
    · rintro rfl
      rw [List.append_nil] at hrest
      rw [hrest] at hprefix
      exact Nat.lt_irrefl _ hprefix.2
  · cases hbelow

theorem Proper.has_below (hd : t.place? (Path.ofText d) = some p)
    (h : (names, node) ∈ t.below p) :
    t.has (Path.ofText (joinPath d (String.intercalate "/" names))) = true := by
  obtain ⟨hfollow, hne, hproper⟩ := ht.follow_below h
  refine has_joinPath hd (by rw [Path.namesOf_intercalate hproper, hfollow]) ?_
  cases names with
  | nil => exact absurd rfl hne
  | cons n names =>
    obtain ⟨hn, -⟩ := List.forall_mem_cons.mp hproper
    have hhead : (String.intercalate "/" (n :: names)).toList.head? = n.toList.head? := by
      have hn' : n.toList ≠ [] := fun h => hn.notEmpty (String.toList_eq_nil_iff.mp h)
      cases names with
      | nil => rw [String.intercalate_singleton]
      | cons m names =>
        rw [String.intercalate_cons_cons, String.append_assoc, String.toList_append,
          List.head?_append_of_ne_nil _ hn']
    rw [hhead]
    exact fun hslash => hn.noSlash (List.mem_of_head? hslash)

theorem has_namesLike {foldersOnly : Bool} (h : n ∈ t.namesLike foldersOnly d s) :
    t.has (Path.ofText (joinPath d n)) = true := by
  unfold namesLike at h
  split at h
  · cases h
  · next p hp =>
    obtain ⟨e, he, rfl⟩ := List.mem_map.mp (List.mem_filter.mp h).1
    obtain ⟨b, hb, hname⟩ := List.mem_filterMap.mp (List.mem_filter.mp he).1
    split at hname
    · next m hm =>
      cases hname
      obtain ⟨names, node⟩ := b
      obtain rfl : names = [m] := hm
      have hhas := ht.has_below (Option.filter_eq_some_iff.mp hp).1 hb
      rwa [String.intercalate_singleton] at hhas
    · cases hname

theorem has_pathsBelow {foldersOnly : Bool} (h : n ∈ t.pathsBelow foldersOnly d) :
    t.has (Path.ofText (joinPath d n)) = true := by
  unfold pathsBelow at h
  split at h
  · cases h
  · next p hp =>
    rcases List.mem_cons.mp h with rfl | h
    · exact has_joinPath_empty (by rw [hp]; rfl)
    · obtain ⟨⟨names, node⟩, he, rfl⟩ := List.mem_map.mp h
      exact ht.has_below (Option.filter_eq_some_iff.mp hp).1 (List.mem_filter.mp he).1

/-- All paths that a pattern stands for lead somewhere. -/
theorem has_expandFrom {fuel : Nat} {foldersOnly : Bool} {pattern : String}
    (h : s ∈ t.expandFrom fuel foldersOnly pattern) : t.has (Path.ofText s) = true := by
  cases fuel with
  | zero => cases h
  | succ fuel =>
    unfold expandFrom at h
    dsimp only at h
    split at h
    · -- A text without wildcards stands for itself, if its parts lead somewhere.
      obtain ⟨n, hn, rfl⟩ := List.mem_map.mp h
      have hhas := has_nameIn hn
      have hname : n = (cutPath pattern).2 := by
        unfold nameIn at hn
        split at hn
        · next hempty =>
          split at hn
          · rw [List.mem_singleton.mp hn, beq_iff_eq.mp hempty]
          · cases hn
        · split at hn
          · exact List.mem_singleton.mp hn
          · cases hn
      rw [hname, has, place?_cutPath] at hhas
      exact hhas
    · have hin : ∀ d n, n ∈ (if ((cutPath pattern).2 == "**") = true then t.pathsBelow foldersOnly d
          else if Text.hasWildcard (cutPath pattern).2 = true then
            t.namesLike foldersOnly d (cutPath pattern).2
          else t.nameIn d (cutPath pattern).2) → t.has (Path.ofText (joinPath d n)) = true := by
        intro d n hn
        split at hn
        · exact has_pathsBelow ht hn
        · split at hn
          · exact has_namesLike ht hn
          · exact has_nameIn hn
      split at h
      · have hhas := hin "" s h
        rwa [joinPath, if_neg (by simp), if_pos (by decide), String.empty_append] at hhas
      · obtain ⟨d, -, hd⟩ := List.mem_flatMap.mp h
        obtain ⟨n, hn, rfl⟩ := List.mem_map.mp hd
        exact hin d n hn

/-- The files that an input means are there, and have names. -/
theorem has_sourcesOf {input : String} {a : Path} (h : a ∈ t.sourcesOf input) :
    t.has a = true ∧ NamesSource a := by
  unfold sourcesOf at h
  dsimp only at h
  split at h
  · unfold sourcesBelow at h
    split at h
    · cases h
    · next place hplace =>
      obtain ⟨⟨names, node⟩, he, rfl⟩ := List.mem_map.mp (List.mem_mergeSort.mp h)
      obtain ⟨hbelow, hsuffix⟩ := List.mem_filter.mp he
      obtain ⟨hfollow, -, hproper⟩ := ht.follow_below hbelow
      have hparts : ((Path.ofText input).join ⟨"", names⟩).parts =
          (Path.ofText input).parts ++ names := rfl
      constructor
      · rw [has, place?, hparts]
        exact Option.isSome_iff_exists.mpr ⟨_, (follow_append hplace names).trans hfollow⟩
      · dsimp only at hsuffix
        split at hsuffix
        · next n hn =>
          obtain ⟨front, rfl⟩ := List.getLast?_eq_some_iff.mp hn
          have hname := hproper n (List.mem_append_right _ (List.mem_singleton_self n))
          exact ⟨(Path.ofText input).parts ++ front, n, by rw [hparts, List.append_assoc],
            hname.notEmpty, hname.notBack⟩
        · cases hsuffix
  · split at h
    · next hsource =>
      rw [Bool.and_eq_true, beq_iff_eq] at hsource
      rw [List.mem_singleton.mp h]
      refine ⟨?_, namesSource_of_suffix hsource.2⟩
      have hfile := hsource.1
      unfold isFile at hfile
      cases hplace : t.place? (Path.ofText input) with
      | none => rw [hplace] at hfile; cases hfile
      | some place => rw [has, hplace]; rfl
    · obtain ⟨hexpand, hsuffix⟩ := List.mem_filter.mp (List.mem_mergeSort.mp h)
      obtain ⟨s, hs, rfl⟩ := List.mem_map.mp hexpand
      exact ⟨has_expandFrom ht hs, namesSource_of_suffix (beq_iff_eq.mp hsuffix)⟩

/-- A collected file is there, and its module has a name. -/
theorem place?_of_mem_collect {inputs : List String} (h : p ∈ t.collect inputs) :
    t.place? ⟨"/", p⟩ = some p ∧ (moduleNameOf? ⟨"/", p⟩).isSome = true := by
  obtain ⟨a, ha, rfl⟩ := List.mem_map.mp (List.mem_filter.mp (mem_of_mem_distinct h)).1
  obtain ⟨input, -, hsource⟩ := List.mem_flatMap.mp ha
  obtain ⟨hhas, names, n, hparts, hempty, hback⟩ := has_sourcesOf ht hsource
  refine ⟨place?_resolve ht.home hhas, ?_⟩
  have hname : (Path.mk "/" (t.resolve a)).name = n := by
    rw [Path.name, resolve, hparts, List.foldl_append, List.foldl_cons, List.foldl_nil,
      if_neg (by simpa using hback), List.getLast?_concat]
    rfl
  rw [moduleNameOf?, if_neg (by rw [hname]; simpa using hempty)]
  rfl

end Proper

end FileTree

end TypeProjection
