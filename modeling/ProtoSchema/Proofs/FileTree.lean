/-
File trees before and after an operation.

Making directories and writing a file leave every directory in place, so that a path which leads
somewhere leads to the same place afterwards. Beyond that, directories are made only where nothing
stood, and a file that is written stands at the place of its path.
-/
import ProtoSchema.FileTree
import ProtoSchema.Proofs.Outcome

set_option autoImplicit false

namespace ProtoSchema

namespace FileTree

/-! ## Directories that stay -/

/-- **Every directory is still there**, and the working directory is the same. -/
structure Keeps (t t' : FileTree) : Prop where
  here : t'.here = t.here
  directory : ∀ place, t.node? place = some .directory → t'.node? place = some .directory

theorem Keeps.refl (t : FileTree) : t.Keeps t := ⟨rfl, fun _ h => h⟩

theorem Keeps.trans {t t' t'' : FileTree} (h : t.Keeps t') (h' : t'.Keeps t'') : t.Keeps t'' :=
  ⟨h'.here.trans h.here, fun place hp => h'.directory place (h.directory place hp)⟩

/-- A walk that succeeds goes through directories only, so it leads to the same place as long as
they are kept. -/
theorem Keeps.walk {t t' : FileTree} (h : t.Keeps t') (segments : List String) (start place : Place)
    (hwalk : t.walk start segments = .ok place) : t'.walk start segments = .ok place := by
  induction segments generalizing start with
  | nil => exact hwalk
  | cons segment rest ih =>
    rw [FileTree.walk] at hwalk ⊢
    cases hnode : t.node? start with
    | none => simp [hnode] at hwalk
    | some n =>
      cases n with
      | file contents executable => simp [hnode] at hwalk
      | directory =>
        -- a walk that goes on is in a directory, and that one is still there
        rw [hnode] at hwalk
        rw [h.directory start hnode]
        dsimp only at hwalk ⊢
        split_ifs at hwalk ⊢ with hidle hup hname
        · exact ih start hwalk
        · exact ih start.dropLast hwalk
        · exact ih (start ++ [segment]) hwalk

/-- **A path leads to the same place** as before. -/
theorem Keeps.resolve {t t' : FileTree} (h : t.Keeps t') {path : String} {place : Place}
    (hpath : t.resolve path = .ok place) : t'.resolve path = .ok place := by
  unfold FileTree.resolve at hpath ⊢
  rw [h.here]
  split_ifs at hpath ⊢ with hempty hvalid habsolute
  · exact h.walk _ _ _ hpath
  · exact h.walk _ _ _ hpath

/-! ## Making directories -/

/-- What stands at a place is as before, or it is a directory where nothing stood. -/
def SameOrMade (t t' : FileTree) (place : Place) : Prop :=
  t'.node? place = t.node? place ∨ (t.node? place = none ∧ t'.node? place = some .directory)

theorem SameOrMade.refl (t : FileTree) (place : Place) : SameOrMade t t place := .inl rfl

/-- A directory that was made where nothing stood is left alone afterwards. -/
theorem SameOrMade.trans {t t' t'' : FileTree} {place : Place} (h : SameOrMade t t' place)
    (h' : SameOrMade t' t'' place) : SameOrMade t t'' place := by
  obtain h' | ⟨hnone, hmade⟩ := h'
  · rw [SameOrMade, h']
    exact h
  · obtain h | ⟨-, hdirectory⟩ := h
    · exact .inr ⟨h ▸ hnone, hmade⟩
    · rw [hnone] at hdirectory
      cases hdirectory

/-- What is a file or a directory already stays. -/
theorem SameOrMade.of_some {t t' : FileTree} {place : Place} {n : Node}
    (h : SameOrMade t t' place) (hn : t.node? place = some n) : t'.node? place = some n := by
  obtain h | ⟨hnone, -⟩ := h
  · rw [h, hn]
  · rw [hn] at hnone
    cases hnone

/-- **Only directories are new.** -/
structure OnlyMakes (t t' : FileTree) : Prop where
  here : t'.here = t.here
  sameOrMade : ∀ place, SameOrMade t t' place

theorem OnlyMakes.refl (t : FileTree) : t.OnlyMakes t := ⟨rfl, .refl t⟩

theorem OnlyMakes.trans {t t' t'' : FileTree} (h : t.OnlyMakes t') (h' : t'.OnlyMakes t'') :
    t.OnlyMakes t'' :=
  ⟨h'.here.trans h.here, fun place => (h.sameOrMade place).trans (h'.sameOrMade place)⟩

/-- Where only directories are new, those that were there stay. -/
theorem OnlyMakes.keeps {t t' : FileTree} (h : t.OnlyMakes t') : t.Keeps t' :=
  ⟨h.here, fun place => (h.sameOrMade place).of_some⟩

/-- The root is always there, so a place with nothing at it is not the root. -/
theorem ne_nil_of_node?_eq_none {t : FileTree} {place : Place} (h : t.node? place = none) :
    place ≠ [] := by
  rintro rfl
  cases h

/-- A directory that is put where nothing stood is the only change. -/
theorem onlyMakes_put {t : FileTree} {place : Place} (h : t.node? place = none) :
    t.OnlyMakes (t.put place .directory) := by
  refine ⟨rfl, fun other => ?_⟩
  rw [SameOrMade, node?_put t place other _ (ne_nil_of_node?_eq_none h)]
  split_ifs with heq
  · exact .inr ⟨heq ▸ h, rfl⟩
  · exact .inl rfl

/-- A directory is made only where nothing stands. -/
theorem onlyMakes_makeDirectory {t t' : FileTree} {path : String}
    (h : t.makeDirectory path = .ok t') : t.OnlyMakes t' := by
  unfold makeDirectory at h
  dsimp only at h
  split at h
  · cases h
  · split at h
    · cases h
    · obtain ⟨place, -, h⟩ := Outcome.bind_eq_ok.mp h
      cases hnode : t.node? place with
      -- something stands there, so no directory is made
      | some n =>
        rw [hnode] at h
        cases h
      | none =>
        rw [hnode] at h
        cases h
        exact onlyMakes_put hnode

/-- A directory that is there already is left as it is. -/
theorem onlyMakes_ensureDirectory {t t' : FileTree} {path : String}
    (h : t.ensureDirectory path = .ok t') : t.OnlyMakes t' := by
  unfold ensureDirectory at h
  cases hmake : t.makeDirectory path with
  | ok made =>
    rw [hmake] at h
    cases h
    exact onlyMakes_makeDirectory hmake
  | error fault =>
    rw [hmake] at h
    dsimp only at h
    split_ifs at h
    cases h
    exact .refl t

/-- The directories above a path are made first, and only if the path's own cannot be. -/
theorem onlyMakes_ensureDirectories {t t' : FileTree} {path : String} {fuel : Nat}
    (h : t.ensureDirectories path fuel = .ok t') : t.OnlyMakes t' := by
  induction fuel generalizing path t' with
  | zero => cases h
  | succ fuel ih =>
    rw [ensureDirectories] at h
    split_ifs at h with hempty
    · cases h
      exact .refl t
    · split at h
      · split at h
        · cases h
        · obtain ⟨above, habove, hlast⟩ := Outcome.bind_eq_ok.mp h
          exact (ih habove).trans (onlyMakes_ensureDirectory hlast)
      · exact onlyMakes_ensureDirectory h

/-- The directories above a file are made where they are missing, and nothing else. -/
theorem onlyMakes_makeParent {t t' : FileTree} {path : String} (h : t.makeParent path = .ok t') :
    t.OnlyMakes t' := by
  unfold makeParent at h
  cases hparent : Path.parent? path with
  | none =>
    rw [hparent] at h
    cases h
    exact .refl t
  | some above =>
    rw [hparent] at h
    exact onlyMakes_ensureDirectories h

/-! ## Writing a file -/

/-- **What writing a file does**: its bytes stand at the place of its path, where no directory
was, and every other place is as before. -/
theorem writeBytes_eq_ok {t t' : FileTree} {path : String} {contents : List UInt8}
    (h : t.writeBytes path contents = .ok t') :
    ∃ place executable, t.resolve path = .ok place ∧ t'.here = t.here ∧
      t.node? place ≠ some .directory ∧
      t'.node? place = some (.file contents executable) ∧
      ∀ other, other ≠ place → t'.node? other = t.node? other := by
  obtain ⟨place, hplace, h⟩ := Outcome.bind_eq_ok.mp h
  -- the root is a directory, so the place has a name
  have hput : ∀ executable, t.node? place ≠ some .directory →
      (t.put place (.file contents executable)).node? place = some (.file contents executable) ∧
      ∀ other, other ≠ place →
        (t.put place (.file contents executable)).node? other = t.node? other := by
    intro executable hnode
    have hne : place ≠ [] := by
      rintro rfl
      exact hnode rfl
    constructor
    · rw [node?_put t place place _ hne, if_pos rfl]
    · intro other hother
      rw [node?_put t place other _ hne, if_neg hother.symm]
  cases hnode : t.node? place with
  | none =>
    rw [hnode] at h
    cases h
    exact ⟨place, false, hplace, rfl, by rw [hnode]; nofun, hput false (by rw [hnode]; nofun)⟩
  | some n =>
    cases n with
    | directory =>
      rw [hnode] at h
      cases h
    | file old executable =>
      rw [hnode] at h
      cases h
      exact ⟨place, executable, hplace, rfl, by rw [hnode]; nofun,
        hput executable (by rw [hnode]; nofun)⟩

/-- Reading a path gives the bytes of the file at its place. -/
theorem readBytes_eq_ok {t : FileTree} {path : String} {place : Place} {contents : List UInt8}
    {executable : Bool} (hpath : t.resolve path = .ok place)
    (hnode : t.node? place = some (.file contents executable)) :
    t.readBytes path = .ok contents := by
  simp only [readBytes, lookup, hpath, hnode, bind, Except.bind]

end FileTree

end ProtoSchema
