import TypeProjection.Files.Tree

/-!
# What writing does to a tree

A tree that only grows keeps what stands at its places, so a path that led to a file still leads to
it. Making folders makes a tree grow; writing a text leaves that text at its path, and when writing
fails, whatever file was at the path is still there as it was.
-/

namespace TypeProjection

theorem lookup_put_entry {α β : Type} [BEq α] [LawfulBEq α] (key k : α) (value : β)
    (entries : List (α × β)) :
    (putPair key value entries).lookup k = if k == key then some value else entries.lookup k := by
  induction entries with
  | nil =>
    rw [putPair, List.lookup_cons]
    cases k == key <;> rfl
  | cons e entries ih =>
    obtain ⟨j, v⟩ := e
    unfold putPair
    by_cases hj : j = key
    · subst hj
      rw [if_pos (beq_self_eq_true j), List.lookup_cons, List.lookup_cons]
      cases k == j <;> rfl
    · rw [if_neg (by simpa using hj), List.lookup_cons, List.lookup_cons, ih]
      by_cases hk : k = j
      · subst hk
        simp [hj]
      · rw [beq_false_of_ne hk]

namespace FileTree

/-- The bytes of the file that a path leads to, if it leads to one. -/
def held (t : FileTree) (p : Path) : Option (List UInt8) := (t.readBytes p).toOption

/-- A tree that has all of another, in the same working directory. -/
structure Extends (t t' : FileTree) : Prop where
  home : t'.home = t.home
  keeps : ∀ {q n}, t.node? q = some n → t'.node? q = some n

variable {t t' t'' : FileTree} {p : Path} {q here : Place} {names : List String} {n : FileNode}

theorem Extends.refl : t.Extends t := ⟨rfl, id⟩

theorem Extends.trans (h : t.Extends t') (h' : t'.Extends t'') : t.Extends t'' :=
  ⟨h'.home.trans h.home, fun hn => h'.keeps (h.keeps hn)⟩

theorem isFolderAt_iff : t.isFolderAt q = true ↔ t.node? q = some .folder := by
  unfold isFolderAt
  split <;> simp_all

theorem Extends.isFolderAt (h : t.Extends t') (hq : t.isFolderAt q = true) :
    t'.isFolderAt q = true :=
  isFolderAt_iff.mpr (h.keeps (isFolderAt_iff.mp hq))

/-! Following a path. -/

/-- A path leads to the same place in a tree that has all the folders and the place itself. -/
theorem follow_of_folders (hfolders : ∀ q, t.isFolderAt q = true → t'.isFolderAt q = true)
    (hplace : (t'.node? q).isSome = true) (h : t.follow here names = some q) :
    t'.follow here names = some q := by
  induction names generalizing here with
  | nil =>
    obtain ⟨n, -, rfl⟩ := Option.map_eq_some_iff.mp h
    obtain ⟨n', hn'⟩ := Option.isSome_iff_exists.mp hplace
    rw [follow, hn', Option.map_some]
  | cons name names ih =>
    rw [follow] at h ⊢
    by_cases hfolder : t.isFolderAt here = true
    · rw [hfolder] at h
      rw [hfolders here hfolder]
      simp only [Bool.not_true, Bool.false_eq_true, if_false] at h ⊢
      split at h
      · next hback => rw [if_pos hback]; exact ih h
      · next hback => rw [if_neg hback]; exact ih h
    · simp [hfolder] at h

theorem isSome_node?_of_follow (h : t.follow here names = some q) : (t.node? q).isSome = true := by
  induction names generalizing here with
  | nil =>
    obtain ⟨n, hn, rfl⟩ := Option.map_eq_some_iff.mp h
    rw [hn]
    rfl
  | cons name names ih =>
    rw [follow] at h
    split at h
    · cases h
    · split at h <;> exact ih h

/-- A place that names lead to is the one that they mean. -/
theorem follow_eq_foldl (h : t.follow here names = some q) :
    names.foldl (fun here n => if n == ".." then here.dropLast else here ++ [n]) here = q := by
  induction names generalizing here with
  | nil =>
    obtain ⟨n, -, rfl⟩ := Option.map_eq_some_iff.mp h
    rfl
  | cons name names ih =>
    rw [follow] at h
    rw [List.foldl_cons]
    split at h
    · cases h
    · split at h
      · next hback =>
        rw [if_pos hback]
        exact ih h
      · next hback =>
        rw [if_neg hback]
        exact ih h

/-- Names that follow others are followed from the place that the others lead to. -/
theorem follow_append (h : t.follow here names = some q) (more : List String) :
    t.follow here (names ++ more) = t.follow q more := by
  induction names generalizing here with
  | nil =>
    obtain ⟨n, -, rfl⟩ := Option.map_eq_some_iff.mp h
    rfl
  | cons name names ih =>
    rw [List.cons_append, follow]
    rw [follow] at h
    split at h
    · cases h
    · next hfolder =>
      rw [if_neg hfolder]
      split at h
      · next hback => rw [if_pos hback]; exact ih h
      · next hback => rw [if_neg hback]; exact ih h

theorem held_eq_some {bs : List UInt8} : t.held p = some bs ↔
    ∃ q content version, t.place? p = some q ∧ t.node? q = some (.file content version) ∧
      bs = match content with
        | .bytes bs => bs
        | .definitions _ => [] := by
  unfold held readBytes
  cases hplace : t.place? p with
  | none => simp [Except.toOption]
  | some q =>
    cases hnode : t.node? q with
    | none => simp [Except.toOption, hnode]
    | some n =>
      cases n with
      | folder => simp [Except.toOption, hnode]
      | file content version => cases content <;> simp [Except.toOption, hnode, eq_comm]

/-- A file stays where it is in a tree that grows. -/
theorem Extends.held (h : t.Extends t') {bs : List UInt8} (hheld : t.held p = some bs) :
    t'.held p = some bs := by
  obtain ⟨q, content, version, hplace, hnode, hbs⟩ := held_eq_some.mp hheld
  refine held_eq_some.mpr ⟨q, content, version, ?_, h.keeps hnode, hbs⟩
  have hstart : t'.start p = t.start p := by rw [start, start, h.home]
  rw [place?, hstart]
  exact follow_of_folders (fun _ hq => h.isFolderAt hq) (by rw [h.keeps hnode]; rfl) hplace

/-! Making folders. -/

theorem node?_putNode (hq : q.isPrefixOf t.home = false) (a : Place) :
    (t.putNode q n).node? a = if a == q then some n else t.node? a := by
  unfold putNode node?
  rw [hq, if_neg Bool.false_ne_true]
  dsimp only
  by_cases ha : a.isPrefixOf t.home = true
  · have hne : a ≠ q := fun he => by rw [he, hq] at ha; cases ha
    rw [if_pos ha, if_pos ha, if_neg (by simpa using hne)]
  · rw [if_neg ha, if_neg ha, lookup_put_entry]

theorem home_putNode : (t.putNode q n).home = t.home := by
  unfold putNode
  split <;> rfl

theorem extends_putNode (hq : t.node? q = none) : t.Extends (t.putNode q n) := by
  have hprefix : q.isPrefixOf t.home = false := by
    rw [Bool.eq_false_iff]
    intro h
    simp [node?, h] at hq
  refine ⟨home_putNode, fun {a m} ha => ?_⟩
  rw [node?_putNode hprefix]
  have hne : a ≠ q := fun he => by rw [he, hq] at ha; cases ha
  rw [if_neg (by simpa using hne)]
  exact ha

theorem extends_addFolder (t : FileTree) (p : Place) : t.Extends (t.addFolder p) := by
  unfold addFolder
  generalize parents p ++ [p] = places
  induction places generalizing t with
  | nil => exact .refl
  | cons q places ih =>
    rw [List.foldl_cons]
    refine Extends.trans ?_ (ih _)
    split
    · exact .refl
    · next hq => exact extends_putNode (by simpa using hq)

theorem extends_makeFolders (h : t.makeFolders p = .ok t') : t.Extends t' := by
  unfold makeFolders at h
  generalize prefixes p = paths at h
  induction paths generalizing t with
  | nil =>
    cases h
    exact .refl
  | cons q paths ih =>
    rw [List.foldlM_cons] at h
    split at h
    · exact (extends_addFolder t _).trans (ih h)
    · split at h
      · exact ih h
      · cases h

/-- Folders that cannot be made are not for want of an encoding. -/
theorem ne_unencodable_of_makeFolders {f : FileFault} (h : t.makeFolders p = .error f)
    (text : List Text.Point) : f ≠ .unencodable text := by
  unfold makeFolders at h
  generalize prefixes p = paths at h
  induction paths generalizing t with
  | nil => cases h
  | cons q paths ih =>
    rw [List.foldlM_cons] at h
    split at h
    · exact ih h
    · split at h
      · exact ih h
      · cases h
        split <;> exact FileFault.noConfusion

/-! Writing. -/

section Writing

variable {content : FileContent}

theorem not_isPrefixOf_of_not_folder (hq : t.isFolderAt q = false) :
    q.isPrefixOf t.home = false := by
  rw [Bool.eq_false_iff]
  intro h
  have hnode : t.node? q = some .folder := by simp [node?, h]
  rw [isFolderAt_iff.mpr hnode] at hq
  cases hq

theorem home_write : (t.write q content).home = t.home :=
  home_putNode.trans (extends_addFolder t q.dropLast).home

theorem node?_write (hq : t.isFolderAt q = false) (a : Place) :
    (t.write q content).node? a =
      if a == q then some (.file content (t.addFolder q.dropLast).clock)
      else (t.addFolder q.dropLast).node? a := by
  have hprefix : q.isPrefixOf (t.addFolder q.dropLast).home = false := by
    rw [(extends_addFolder t q.dropLast).home]
    exact not_isPrefixOf_of_not_folder hq
  exact node?_putNode hprefix a

theorem isFolderAt_write (hq : t.isFolderAt q = false) (a : Place) (ha : t.isFolderAt a = true) :
    (t.write q content).isFolderAt a = true := by
  have hne : a ≠ q := fun he => by rw [he, hq] at ha; cases ha
  rw [isFolderAt_iff, node?_write hq, if_neg (by simpa using hne)]
  exact (extends_addFolder t q.dropLast).keeps (isFolderAt_iff.mp ha)

/-- Bytes that are written at a place are held by every path that leads to the place. -/
theorem held_write {bs : List UInt8} (hq : t.isFolderAt q = false)
    (hplace : (t.write q (.bytes bs)).place? p = some q) :
    (t.write q (.bytes bs)).held p = some bs := by
  refine held_eq_some.mpr ⟨q, .bytes bs, (t.addFolder q.dropLast).clock, hplace, ?_, rfl⟩
  rw [node?_write hq, if_pos (beq_self_eq_true q)]

theorem place?_write_of_place (hq : t.isFolderAt q = false) (hplace : t.place? p = some q) :
    (t.write q content).place? p = some q := by
  rw [place?, start, home_write]
  refine follow_of_folders (isFolderAt_write hq) ?_ hplace
  rw [node?_write hq, if_pos (beq_self_eq_true q)]
  rfl

/-- Nothing stands at the path, but its folder is there: then the path leads to what is written at
the place that it means. -/
theorem place?_write_of_parent (content : FileContent) (hparent : t.isFolder p.parent = true)
    (hplace : t.place? p = none) :
    t.isFolderAt (t.resolve p) = false ∧
      (t.write (t.resolve p) content).place? p = some (t.resolve p) := by
  obtain ⟨name, hparts⟩ : ∃ name, p.parts = p.parts.dropLast ++ [name] := by
    rcases List.eq_nil_or_concat p.parts with hnil | ⟨names, name, hcons⟩
    · have hsame : p.parent = p := by
        cases p
        simp_all [Path.parent]
      rw [hsame, isFolder, hplace] at hparent
      cases hparent
    · exact ⟨name, by rw [hcons, List.concat_eq_append, List.dropLast_concat]⟩
  have hstart : t.start p.parent = t.start p := rfl
  cases hfollow : t.follow (t.start p) p.parts.dropLast with
  | none =>
    rw [isFolder, place?, hstart, Path.parent, hfollow] at hparent
    cases hparent
  | some here =>
    have hfolder : t.isFolderAt here = true := by
      rw [isFolder, place?, hstart, Path.parent, hfollow] at hparent
      exact hparent
    have hresolve : t.resolve p = if name == ".." then here.dropLast else here ++ [name] := by
      rw [resolve, hparts, List.foldl_append, follow_eq_foldl hfollow]
      rfl
    have hstep : ∀ s : FileTree, s.isFolderAt here = true →
        s.follow here [name] = s.follow (t.resolve p) [] := by
      intro s hs
      have hstay : s.follow here [name] =
          if name == ".." then s.follow here.dropLast [] else s.follow (here ++ [name]) [] := by
        simp [follow, hs]
      rw [hresolve, hstay]
      split <;> rfl
    have hnode : t.node? (t.resolve p) = none := by
      rw [place?, hparts, follow_append hfollow, hstep t hfolder, follow] at hplace
      exact Option.map_eq_none_iff.mp hplace
    have hq : t.isFolderAt (t.resolve p) = false := by
      rw [isFolderAt, hnode]
    refine ⟨hq, ?_⟩
    have hwritten : (t.write (t.resolve p) content).follow (t.start p) p.parts.dropLast =
        some here := by
      refine follow_of_folders (isFolderAt_write hq) ?_ hfollow
      rw [isFolderAt_iff.mp (isFolderAt_write hq here hfolder)]
      rfl
    rw [place?, start, home_write, ← start, hparts, follow_append hwritten,
      hstep _ (isFolderAt_write hq here hfolder), follow, node?_write hq,
      if_pos (beq_self_eq_true _)]
    rfl

/-- A text that is written is what the path holds from then on. -/
theorem held_writeText {text : String} (h : t.writeText p text = .ok t') :
    t'.held p = some (Text.encode text) := by
  unfold writeText at h
  cases hplace : t.place? p with
  | none =>
    rw [hplace] at h
    dsimp only at h
    split at h
    · next hparent =>
      cases h
      obtain ⟨hq, hwritten⟩ := place?_write_of_parent (.bytes (Text.encode text)) hparent hplace
      exact held_write hq hwritten
    · cases h
  | some q =>
    rw [hplace] at h
    dsimp only at h
    split at h
    · cases h
    · next hq =>
      cases h
      have hq : t.isFolderAt q = false := by simpa using hq
      exact held_write hq (place?_write_of_place hq hplace)

/-- Nor is a text that is none to begin with what cannot be written. -/
theorem ne_unencodable_of_writeText {text : String} {f : FileFault}
    (h : t.writeText p text = .error f) (points : List Text.Point) : f ≠ .unencodable points := by
  unfold writeText at h
  split at h
  · split at h
    · cases h
      exact FileFault.noConfusion
    · cases h
  · split at h
    · cases h
    · cases h
      unfold absence
      split <;> exact FileFault.noConfusion

/-- Where a text cannot be written, there is no file. -/
theorem held_of_writeText_error {text : String} {f : FileFault} (h : t.writeText p text = .error f) :
    t.held p = none := by
  unfold writeText at h
  cases hplace : t.place? p with
  | none => simp [held, readBytes, hplace, Except.toOption]
  | some q =>
    rw [hplace] at h
    dsimp only at h
    split at h
    · next hq =>
      have hnode := isFolderAt_iff.mp hq
      simp [held, readBytes, hplace, hnode, Except.toOption]
    · cases h

end Writing

end FileTree

end TypeProjection
