import BellmanGrid.Files.Tree

/-!
What a write of a document or a drawing changes: the item at the place that its path leads to, and
nothing else.

Only directories are passed on the way to a place.  So a write to a place where no directory stands
changes no way, and paths that lead to other places read as they did before.
-/

namespace BellmanGrid.FileTree

variable {tree : FileTree} {place : Path} {item : FileItem}

/-! ### Items -/

theorem lookup_replaced (entries : List (Path × FileItem)) (place other : Path) (item : FileItem) :
    (entries.map fun entry => if entry.1 = place then (place, item) else entry).lookup other =
      if other = place then (entries.lookup place).map fun _ => item else entries.lookup other := by
  induction entries with
  | nil => simp
  | cons entry rest ih =>
      obtain ⟨name, content⟩ := entry
      rw [List.map_cons]
      by_cases hname : name = place
      · subst hname
        by_cases hother : other = name
        · subst hother
          simp
        · have hbeq : (other == name) = false := beq_false_of_ne hother
          simp only [if_true, List.lookup_cons, hbeq, ih, if_neg hother]
      · by_cases hother : other = place
        · subst hother
          have hbeq : (other == name) = false := beq_false_of_ne (Ne.symm hname)
          simp only [if_neg hname, List.lookup_cons, hbeq, ih, if_true]
        · simp only [if_neg hname, List.lookup_cons, ih, if_neg hother]

theorem lookup_put (tree : FileTree) (place other : Path) (item : FileItem) :
    (tree.put place item).items.lookup other =
      if other = place then some item else tree.items.lookup other := by
  rw [put]
  split
  · next hsome =>
      rw [lookup_replaced]
      split
      · obtain ⟨content, hcontent⟩ := Option.isSome_iff_exists.mp hsome
        rw [hcontent]
        rfl
      · rfl
  · next hnone =>
      have hnone : tree.items.lookup place = none := Option.not_isSome_iff_eq_none.mp hnone
      rw [List.lookup_append]
      by_cases hother : other = place
      · subst hother
        simp [hnone]
      · have hbeq : (other == place) = false := beq_false_of_ne hother
        simp [List.lookup_cons, hbeq, hother]

theorem item?_put_of_ne (tree : FileTree) {other : Path} (hne : other ≠ place) (item : FileItem) :
    (tree.put place item).item? other = tree.item? other := by
  rw [item?, item?, lookup_put, if_neg hne]

theorem item?_put_self (hbefore : tree.item? place ≠ some .directory) (item : FileItem) :
    (tree.put place item).item? place = some item := by
  have hparts : ¬ place.parts.isEmpty = true := by
    intro hempty
    rw [item?, if_pos hempty] at hbefore
    exact hbefore rfl
  rw [item?, if_neg hparts, lookup_put, if_pos rfl]

/-! ### Places -/

/-- Directories stand where they stood. -/
theorem item?_put_eq_directory_iff (hbefore : tree.item? place ≠ some .directory)
    (hitem : item ≠ .directory) (other : Path) :
    (tree.put place item).item? other = some .directory ↔ tree.item? other = some .directory := by
  by_cases hother : other = place
  · subst hother
    rw [item?_put_self hbefore]
    exact iff_of_false (fun hequal => hitem (Option.some.inj hequal)) hbefore
  · rw [item?_put_of_ne tree hother]

theorem go_cons_eq_ok_iff {given start found : Path} {name : String} {rest : List String} :
    placeOf.go tree given start (name :: rest) = .ok found ↔
      tree.item? start = some .directory ∧ name.utf8ByteSize ≤ longestName ∧
        placeOf.go tree given (if name = ".." then start.parent else start.child name) rest =
          .ok found := by
  rw [placeOf.go]
  cases hitem : tree.item? start with
  | none => simp
  | some standing =>
      cases standing with
      | directory =>
          simp only [true_and]
          by_cases hlong : longestName < name.utf8ByteSize
          · have hnot : ¬ name.utf8ByteSize ≤ longestName := by omega
            simp [hlong, hnot]
          · have hshort : name.utf8ByteSize ≤ longestName := by omega
            simp only [if_neg hlong, hshort, true_and]
            split <;> rfl
      | document content => simp
      | drawing figure => simp

/-- A write to a place without a directory changes no way. -/
theorem go_put (hbefore : tree.item? place ≠ some .directory) (hitem : item ≠ .directory)
    (given : Path) {start found : Path} (names : List String) :
    placeOf.go (tree.put place item) given start names = .ok found ↔
      placeOf.go tree given start names = .ok found := by
  induction names generalizing start with
  | nil => rw [placeOf.go, placeOf.go]
  | cons name rest ih =>
      rw [go_cons_eq_ok_iff, go_cons_eq_ok_iff, item?_put_eq_directory_iff hbefore hitem, ih]

theorem placeOf_eq_ok_iff {path found : Path} :
    tree.placeOf path = .ok found ↔
      Text.unwritableHalves? path.text = none ∧
        path.parts.any (·.contains (Char.ofNat 0)) = false ∧
          placeOf.go tree path ⟨path.root, []⟩ path.parts = .ok found := by
  rw [placeOf]
  cases Text.unwritableHalves? path.text with
  | some halves => simp
  | none =>
      cases path.parts.any (·.contains (Char.ofNat 0)) <;> simp

theorem placeOf_put (hbefore : tree.item? place ≠ some .directory) (hitem : item ≠ .directory)
    {path found : Path} :
    (tree.put place item).placeOf path = .ok found ↔ tree.placeOf path = .ok found := by
  rw [placeOf_eq_ok_iff, placeOf_eq_ok_iff, go_put hbefore hitem]

/-- A place ends with the last name on the way to it, unless that leads back. -/
theorem exists_child_of_go {given : Path} {last : String} (hlast : last ≠ "..")
    (names : List String) {start found : Path}
    (hfound : placeOf.go tree given start (names ++ [last]) = .ok found) :
    ∃ above : Path, found = above.child last := by
  induction names generalizing start with
  | nil =>
      obtain ⟨_, _, hend⟩ := go_cons_eq_ok_iff.mp hfound
      rw [if_neg hlast, placeOf.go] at hend
      exact ⟨start, (Except.ok.inj hend).symm⟩
  | cons name rest ih =>
      obtain ⟨_, _, hrest⟩ := go_cons_eq_ok_iff.mp hfound
      exact ih hrest

/-- Files of different names in directories stand at different places. -/
theorem placeOf_child_ne {directory other first second : Path} {name otherName : String}
    (hname : name ≠ "..") (hotherName : otherName ≠ "..") (hne : name ≠ otherName)
    (hfirst : tree.placeOf (directory.child name) = .ok first)
    (hsecond : tree.placeOf (other.child otherName) = .ok second) : first ≠ second := by
  obtain ⟨above, rfl⟩ := exists_child_of_go hname _ (placeOf_eq_ok_iff.mp hfirst).2.2
  obtain ⟨below, rfl⟩ := exists_child_of_go hotherName _ (placeOf_eq_ok_iff.mp hsecond).2.2
  intro hequal
  have hparts : above.parts ++ [name] = below.parts ++ [otherName] := congrArg Path.parts hequal
  exact hne (List.append_inj_right' hparts rfl |> List.singleton_inj.mp)

/-! ### Writes -/

/-- A path leads to a place where documents and drawings may be put. -/
def CanWrite (tree : FileTree) (path : Path) : Prop :=
  ∃ place, tree.placeOf path = .ok place ∧ tree.item? place ≠ some .directory

theorem canWrite_put (hbefore : tree.item? place ≠ some .directory) (hitem : item ≠ .directory)
    {path : Path} (hpath : tree.CanWrite path) : (tree.put place item).CanWrite path := by
  obtain ⟨found, hfound, hfree⟩ := hpath
  exact ⟨found, (placeOf_put hbefore hitem).mpr hfound,
    mt (item?_put_eq_directory_iff hbefore hitem found).mp hfree⟩

theorem canWrite_of_read {path : Path} {content : String} (hread : tree.read path = .ok content) :
    tree.CanWrite path := by
  rw [read] at hread
  cases hplace : tree.placeOf path with
  | error cause =>
      rw [hplace] at hread
      cases hread
  | ok place =>
      rw [hplace] at hread
      refine ⟨place, hplace, fun hstands => ?_⟩
      simp only [bind, Except.bind, hstands] at hread
      cases hread

theorem isDirectory_iff {path : Path} :
    tree.isDirectory path = true ↔
      ∃ place, tree.placeOf path = .ok place ∧ tree.item? place = some .directory := by
  rw [isDirectory]
  cases tree.placeOf path with
  | error cause => simp
  | ok place =>
      simp only [Except.ok.injEq, exists_eq_left']
      split <;> simp_all

theorem isDirectory_put (hbefore : tree.item? place ≠ some .directory) (hitem : item ≠ .directory)
    {path : Path} (hpath : tree.isDirectory path = true) :
    (tree.put place item).isDirectory path = true := by
  obtain ⟨found, hfound, hstands⟩ := isDirectory_iff.mp hpath
  exact isDirectory_iff.mpr ⟨found, (placeOf_put hbefore hitem).mpr hfound,
    (item?_put_eq_directory_iff hbefore hitem found).mpr hstands⟩

theorem write_eq_ok {path : Path} (hplace : tree.placeOf path = .ok place)
    (hfree : tree.item? place ≠ some .directory) (item : FileItem) :
    tree.write path item = .ok (tree.put place item) := by
  simp only [write, hplace, bind, Except.bind]
  rfl

theorem read_put_self {path : Path} (hplace : tree.placeOf path = .ok place)
    (hfree : tree.item? place ≠ some .directory) (content : String) :
    (tree.put place (.document content)).read path = .ok content := by
  have hitem : FileItem.document content ≠ .directory := nofun
  have hlater := (placeOf_put hfree hitem).mpr hplace
  simp only [read, hlater, bind, Except.bind, item?_put_self hfree]
  rfl

theorem read_put_of_ne {path found : Path} (hfound : tree.placeOf path = .ok found)
    (hne : found ≠ place) (hfree : tree.item? place ≠ some .directory) (hitem : item ≠ .directory) :
    (tree.put place item).read path = tree.read path := by
  have hlater := (placeOf_put hfree hitem).mpr hfound
  simp only [read, hlater, hfound, bind, Except.bind, item?_put_of_ne tree hne]

/-- A directory that stands need not be made. -/
theorem ensureDirectory_of_isDirectory {path : Path} (hpath : tree.isDirectory path = true) :
    tree.ensureDirectory path = .ok tree := by
  obtain ⟨place, hplace, hstands⟩ := isDirectory_iff.mp hpath
  have hmake : tree.makeDirectory path = .error (.alreadyThere path) := by
    rw [makeDirectory, hplace]
    show (if (tree.item? place).isSome then _ else _) = _
    rw [hstands]
    rfl
  rw [ensureDirectory]
  cases hnames : path.parts.reverse with
  | nil => rfl
  | cons name above =>
      have hparts : (name :: above).reverse = path.parts := by
        rw [← hnames, List.reverse_reverse]
      rw [ensureNames]
      simp only [hparts, hmake, keepDirectory, hpath]
      rfl

end BellmanGrid.FileTree
