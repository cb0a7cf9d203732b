import ShownText.FileSystem
import ShownText.Proofs.Puts

namespace ShownText

theorem bind_eq_ok {ε α β : Type} {x : Except ε α} {f : α → Except ε β} {b : β} :
    (x >>= f) = .ok b ↔ ∃ a, x = .ok a ∧ f a = .ok b := by
  cases x <;> simp [bind, Except.bind]

namespace Stream

variable {s s' : Stream} {bytes : List UInt8}

@[simp] theorem append_nil (s : Stream) : s.append [] = (none, s) := by
  obtain ⟨before, _ | ⟨room, error⟩⟩ := s <;> simp [append]

theorem append_append (s : Stream) (xs ys : List UInt8) :
    s.append (xs ++ ys) =
      match s.append xs with
      | (none, s') => s'.append ys
      | (some error, s') => (some error, s') := by
  obtain ⟨before, _ | ⟨room, error⟩⟩ := s
  · simp [append]
  · by_cases hroom : xs.length ≤ room
    · have htake : (xs ++ ys).take room = xs ++ ys.take (room - xs.length) := by
        rw [List.take_append, List.take_of_length_le hroom]
      have hfits : (xs ++ ys).length ≤ room ↔ ys.length ≤ room - xs.length := by
        rw [List.length_append]
        omega
      have hleft : room - (xs ++ ys).length = room - xs.length - ys.length := by
        rw [List.length_append, Nat.sub_add_eq]
      simp only [append, hroom, if_true, hfits, hleft, htake, List.take_of_length_le hroom,
        List.append_assoc]
    · have htake : (xs ++ ys).take room = xs.take room :=
        List.take_append_of_le_length (Nat.le_of_not_le hroom)
      have hmore : ¬(xs ++ ys).length ≤ room := by
        rw [List.length_append]
        omega
      have hnone : room - (xs ++ ys).length = room - xs.length := by
        rw [List.length_append]
        omega
      simp only [append, hroom, hmore, if_false, htake, hnone]

theorem bytes_of_append (h : s.append bytes = (none, s')) : s'.bytes = s.bytes ++ bytes := by
  obtain ⟨before, _ | ⟨room, error⟩⟩ := s
  · simp only [append, Prod.mk.injEq, true_and] at h
    rw [← h]
  · simp only [append, Prod.mk.injEq, ite_eq_left_iff, reduceCtorEq, imp_false, Decidable.not_not]
      at h
    rw [← h.2, List.take_of_length_le h.1]

end Stream

namespace FileSystem

variable {fs fs' : FileSystem} {path : SystemText} {location l here : Location} {id : ℕ}
  {part : SystemText} {parts : List SystemText} {creating : Bool}

/-- What is there is also there in the other. -/
def Extends (fs fs' : FileSystem) : Prop :=
  ∀ l node, fs.node? l = some node → fs'.node? l = some node

theorem stepIn_eq_ok {d : Directory} {child : Except FileError Step} {s : Step}
    (h : stepIn d here part child = .ok s) :
    (∀ other, stepIn d here part other = .ok s) ∨
      child = .ok s ∧ ∀ other, stepIn d here part other = other := by
  unfold stepIn at h ⊢
  split at h
  · next hempty => exact .inl fun _ ↦ by rwa [if_pos hempty]
  next hempty =>
  simp only [if_neg hempty]
  split at h
  · cases h
  split at h
  · next hdot => exact .inl fun _ ↦ by rwa [if_pos hdot]
  next hdot =>
  simp only [if_neg hdot]
  split at h
  · next hdots => exact .inl fun _ ↦ by rwa [if_pos hdots]
  next hdots =>
  simp only [if_neg hdots]
  exact .inr ⟨h, fun _ ↦ trivial⟩

theorem exists_directory {s : Step} (h : fs.step creating here part parts = .ok s) :
    ∃ d, fs.node? here = some (.directory d) ∧
      stepIn d here part (fs.child creating d here part parts) = .ok s := by
  unfold step at h
  split at h
  · cases h
  · cases h
  · cases h
  · next d hd => exact ⟨d, hd, h⟩

theorem step_of_directory {d : Directory} (h : fs.node? here = some (.directory d)) :
    fs.step creating here part parts =
      stepIn d here part (fs.child creating d here part parts) := by
  rw [step, h]

theorem exists_of_child {d : Directory} {s : Step}
    (h : fs.child creating d here part parts = .ok s) :
    part.bytes.length ≤ maxName ∧
      ((∃ target, fs.node? (here ++ [part]) = some (.link target) ∧ s = .link target) ∨
        (∀ target, fs.node? (here ++ [part]) ≠ some (.link target)) ∧ s = .place (here ++ [part]) ∧
          (fs.node? (here ++ [part]) = none → creating = true)) := by
  unfold child at h
  split at h
  · cases h
  split at h
  · cases h
  next hlong =>
  refine ⟨Nat.not_lt.mp hlong, ?_⟩
  split at h
  · next target hlink => exact .inl ⟨target, hlink, (Except.ok.inj h).symm⟩
  · next hfile => exact .inr ⟨by simp [hfile], (Except.ok.inj h).symm, by simp [hfile]⟩
  · next hdirectory =>
    exact .inr ⟨by simp [hdirectory], (Except.ok.inj h).symm, by simp [hdirectory]⟩
  next hnone =>
  split at h
  · next hlast =>
    split at h
    · cases h
    · exact .inr ⟨by simp [hnone], (Except.ok.inj h).symm, fun _ ↦ hlast.1⟩
  · cases h

theorem child_of_link {d : Directory} {target : SystemText} (hshort : part.bytes.length ≤ maxName)
    (h : fs.node? (here ++ [part]) = some (.link target)) :
    fs.child false d here part parts = .ok (.link target) := by
  rw [child, if_neg (by simp), if_neg (Nat.not_lt.mpr hshort), h]

theorem child_of_place {d : Directory} {node : Node} (hshort : part.bytes.length ≤ maxName)
    (h : fs.node? (here ++ [part]) = some node) (hnode : ∀ target, node ≠ .link target) :
    fs.child false d here part parts = .ok (.place (here ++ [part])) := by
  rw [child, if_neg (by simp), if_neg (Nat.not_lt.mpr hshort), h]
  cases node with
  | file id => rfl
  | directory d => rfl
  | link target => exact absurd rfl (hnode target)

theorem Extends.step (h : Extends fs fs') {s : Step} (hs : fs.step creating here part parts = .ok s)
    (hfile : ∀ l, s = .place l → fs.node? l = none → ∃ id, fs'.node? l = some (.file id)) :
    fs'.step false here part parts = .ok s := by
  obtain ⟨d, hd, hs⟩ := exists_directory hs
  rw [step_of_directory (h _ _ hd)]
  obtain hany | ⟨hchild, hall⟩ := stepIn_eq_ok hs
  · exact hany _
  rw [hall]
  obtain ⟨hshort, ⟨target, hlink, rfl⟩ | ⟨hnolink, rfl, -⟩⟩ := exists_of_child hchild
  · exact child_of_link hshort (h _ _ hlink)
  · cases hnode : fs.node? (here ++ [part]) with
    | some node =>
      refine child_of_place hshort (h _ _ hnode) fun target hlink ↦ ?_
      exact hnolink target (hlink ▸ hnode)
    | none =>
      obtain ⟨id, hid⟩ := hfile _ rfl hnode
      exact child_of_place hshort hid fun target hlink ↦ by cases hlink

/-- A path that goes on from a place is at that place if no parts are left, and otherwise there is
something there. -/
theorem isSome_of_walk {follow : Location → List SystemText → Except FileError Location}
    (hw : fs.walk creating follow here parts = .ok l) : here = l ∨ (fs.node? here).isSome := by
  cases parts with
  | nil => exact .inl (Except.ok.inj hw)
  | cons part parts =>
    right
    cases hnode : fs.node? here with
    | none =>
      rw [walk, step, hnode] at hw
      cases hw
    | some node => rfl

theorem Extends.walk (h : Extends fs fs') (hl : fs'.node? l = some (.file id))
    {follow follow' : Location → List SystemText → Except FileError Location}
    (hfollow : ∀ here parts, follow here parts = .ok l → follow' here parts = .ok l)
    (hw : fs.walk creating follow here parts = .ok l) :
    fs'.walk false follow' here parts = .ok l := by
  induction parts generalizing here with
  | nil => exact hw
  | cons part parts ih =>
    rw [FileSystem.walk] at hw ⊢
    split at hw
    · cases hw
    · next next hstep =>
      have hfile : ∀ l', Step.place next = .place l' → fs.node? l' = none →
          ∃ id, fs'.node? l' = some (.file id) := by
        rintro _ ⟨⟩ hnone
        obtain rfl | hsome := isSome_of_walk hw
        · exact ⟨id, hl⟩
        · rw [hnone] at hsome
          cases hsome
      rw [h.step hstep hfile]
      exact ih hw
    · next target hstep =>
      rw [h.step hstep fun _ hplace ↦ by cases hplace]
      obtain ⟨new, hnew, hw⟩ := bind_eq_ok.mp hw
      exact bind_eq_ok.mpr ⟨new, hnew, hfollow _ _ hw⟩

theorem Extends.resolve (h : Extends fs fs') (hl : fs'.node? l = some (.file id)) {links : ℕ}
    (hr : fs.resolve creating links here parts = .ok l) :
    fs'.resolve false links here parts = .ok l := by
  induction links generalizing here parts with
  | zero => exact h.walk hl (fun _ _ hnever ↦ by cases hnever) hr
  | succ links ih => exact h.walk hl (fun _ _ hrest ↦ ih hrest) hr

theorem locate_eq_ok : fs.locate creating path = .ok l ↔ ∃ parts, pathParts path = .ok parts ∧
    fs.resolve creating maxLinks (start fs.working path) parts = .ok l :=
  bind_eq_ok

theorem Extends.locate (h : Extends fs fs') (hworking : fs'.working = fs.working)
    (hl : fs'.node? l = some (.file id)) (hlocate : fs.locate creating path = .ok l) :
    fs'.locate false path = .ok l := by
  obtain ⟨parts, hparts, hr⟩ := locate_eq_ok.mp hlocate
  refine locate_eq_ok.mpr ⟨parts, hparts, ?_⟩
  rw [hworking]
  exact h.resolve hl hr

def LeadsTo (fs : FileSystem) (path : SystemText) (id : ℕ) : Prop :=
  ∃ l, fs.locate false path = .ok l ∧ fs.node? l = some (.file id)

/-- The file that a path leads to was created or changed, and nothing else. -/
structure Touches (fs : FileSystem) (path : SystemText) (fs' : FileSystem) (location : Location)
    (id : ℕ) : Prop where
  target : fs.locate true path = .ok location
  file : fs'.node? location = some (.file id)
  before : ∀ node, fs.node? location = some node → node = .file id
  fresh : fs.node? location = none → ∀ l, fs.node? l ≠ some (.file id)
  node : ∀ l, l ≠ location → fs'.node? l = fs.node? l
  content : ∀ n, n ≠ id → fs'.files n = fs.files n
  working : fs'.working = fs.working

namespace Touches

variable (h : Touches fs path fs' location id)

include h

theorem extends_before : Extends fs fs' := by
  intro l node hnode
  by_cases hl : l = location
  · subst hl
    rw [h.file, h.before node hnode]
  · rw [h.node l hl, hnode]

theorem leadsTo : fs'.LeadsTo path id :=
  ⟨location, h.extends_before.locate h.working h.file h.target, h.file⟩

theorem step {s : Step} (hs : fs'.step false here part parts = .ok s) :
    s = .place location ∨ fs.step false here part parts = .ok s := by
  obtain ⟨d, hd, hs⟩ := exists_directory hs
  have hhere : here ≠ location := by
    rintro rfl
    rw [h.file] at hd
    cases hd
  rw [h.node here hhere] at hd
  rw [step_of_directory hd]
  obtain hany | ⟨hchild, hall⟩ := stepIn_eq_ok hs
  · exact .inr (hany _)
  rw [hall]
  by_cases hlocation : here ++ [part] = location
  · obtain ⟨-, ⟨target, hlink, -⟩ | ⟨-, rfl, -⟩⟩ := exists_of_child hchild
    · rw [hlocation, h.file] at hlink
      cases hlink
    · exact .inl (congrArg Step.place hlocation)
  · right
    rw [child, h.node _ hlocation] at hchild
    exact hchild

theorem walk {follow follow' : Location → List SystemText → Except FileError Location}
    (hfollow : ∀ here parts, follow' here parts = .ok l → l = location ∨ follow here parts = .ok l)
    (hw : fs'.walk false follow' here parts = .ok l) :
    l = location ∨ fs.walk false follow here parts = .ok l := by
  induction parts generalizing here with
  | nil => exact .inr hw
  | cons part parts ih =>
    rw [FileSystem.walk] at hw ⊢
    split at hw
    · cases hw
    · next next hstep =>
      obtain hlocation | hbefore := h.step hstep
      · -- From the file no part can be followed.
        cases hlocation
        cases parts with
        | nil => exact .inl (Except.ok.inj hw).symm
        | cons part' parts =>
          rw [FileSystem.walk, FileSystem.step, h.file] at hw
          cases hw
      · rw [hbefore]
        exact ih hw
    · next target hstep =>
      obtain hlocation | hbefore := h.step hstep
      · cases hlocation
      · rw [hbefore]
        obtain ⟨new, hnew, hw⟩ := bind_eq_ok.mp hw
        exact (hfollow _ _ hw).imp_right fun hrest ↦ bind_eq_ok.mpr ⟨new, hnew, hrest⟩

theorem resolve {links : ℕ} (hr : fs'.resolve false links here parts = .ok l) :
    l = location ∨ fs.resolve false links here parts = .ok l := by
  induction links generalizing here parts with
  | zero => exact h.walk (fun _ _ hnever ↦ by cases hnever) hr
  | succ links ih => exact h.walk (fun _ _ hrest ↦ ih hrest) hr

theorem locate {other : SystemText} (hl : fs'.locate false other = .ok l) :
    l = location ∨ fs.locate false other = .ok l := by
  obtain ⟨parts, hparts, hr⟩ := locate_eq_ok.mp hl
  rw [h.working] at hr
  exact (h.resolve hr).imp_right fun hbefore ↦ locate_eq_ok.mpr ⟨parts, hparts, hbefore⟩

end Touches

theorem openFile_eq_some {file : File} : fs.openFile path = .ok (some file) ↔
    ∃ id, fs.LeadsTo path id ∧ fs.files id = file ∧ file.unreadable = none := by
  constructor
  · intro h
    obtain ⟨l, hl, h⟩ := bind_eq_ok.mp h
    split at h
    · next id hfile =>
      split at h
      · cases h
      · next hreadable =>
        obtain rfl := Option.some.inj (Except.ok.inj h)
        exact ⟨id, ⟨l, hl, hfile⟩, rfl, hreadable⟩
    · split at h
      · cases h
      · cases h
    · cases h
    · cases h
  · rintro ⟨id, ⟨l, hl, hfile⟩, rfl, hreadable⟩
    refine bind_eq_ok.mpr ⟨l, hl, ?_⟩
    rw [hfile]
    dsimp only
    rw [hreadable]
    rfl

theorem read_eq_ok {bytes : List UInt8} : fs.read path = .ok bytes ↔
    ∃ id, fs.LeadsTo path id ∧ (fs.files id).unreadable = none ∧ (fs.files id).content = bytes := by
  constructor
  · intro h
    obtain ⟨opened, hopened, h⟩ := bind_eq_ok.mp h
    cases opened with
    | none => cases h
    | some file =>
      obtain ⟨id, hleads, rfl, hreadable⟩ := openFile_eq_some.mp hopened
      exact ⟨id, hleads, hreadable, Except.ok.inj h⟩
  · rintro ⟨id, hleads, hreadable, rfl⟩
    exact bind_eq_ok.mpr ⟨_, openFile_eq_some.mpr ⟨id, hleads, rfl, hreadable⟩, rfl⟩

theorem LeadsTo.unique {n : ℕ} (h : fs.LeadsTo path id) (h' : fs.LeadsTo path n) : id = n := by
  obtain ⟨l, hl, hfile⟩ := h
  obtain ⟨l', hl', hfile'⟩ := h'
  rw [hl] at hl'
  cases hl'
  rw [hfile] at hfile'
  cases hfile'
  rfl

theorem node?_insert (fs : FileSystem) (location : Location) (node : Node) (l : Location) :
    node? { fs with nodes := fs.nodes.insert location node } l =
      if l = location then some node else fs.node? l :=
  OrderedMap.get?_upsert fs.nodes location l _

theorem lt_above {entries : List (Location × Node)} (h : (l, .file id) ∈ entries) :
    id < unused.above entries := by
  fun_induction unused.above entries with
  | case1 => cases h
  | case2 l' n entries ih =>
    obtain heq | htail := List.mem_cons.mp h
    · cases heq
      omega
    · have hlt := ih htail
      omega
  | case3 l' d entries ih =>
    obtain heq | htail := List.mem_cons.mp h
    · cases heq
    · exact ih htail
  | case4 l' target entries ih =>
    obtain heq | htail := List.mem_cons.mp h
    · cases heq
    · exact ih htail

theorem lt_unused (h : fs.node? l = some (.file id)) : id < fs.unused :=
  lt_above ((OrderedMap.get?_eq_some_iff fs.nodes).mp h)

theorem touches_of_create (h : fs.create path = .ok (id, fs')) :
    ∃ location, Touches fs path fs' location id := by
  obtain ⟨location, hl, h⟩ := bind_eq_ok.mp h
  refine ⟨location, ?_⟩
  split at h
  · next n hfile =>
    split at h
    · cases h
    · cases h
      refine ⟨hl, hfile, ?_, ?_, fun _ _ ↦ rfl, fun n hn ↦ if_neg hn, rfl⟩
      · intro node hnode
        rw [hfile] at hnode
        exact (Option.some.inj hnode).symm
      · intro hnone
        rw [hfile] at hnone
        cases hnone
  · cases h
  · cases h
  · next hnone =>
    cases h
    have hnode := node?_insert fs location (.file fs.unused)
    refine ⟨hl, (hnode location).trans (if_pos rfl), ?_, ?_,
      fun l hne ↦ (hnode l).trans (if_neg hne), fun n hn ↦ if_neg hn, rfl⟩
    · intro node hsome
      rw [hnone] at hsome
      cases hsome
    · intro _ l hused
      exact absurd (lt_unused hused) (Nat.lt_irrefl _)

theorem bytes_of_create (h : fs.create path = .ok (id, fs')) :
    (fs'.files id).stream.bytes = [] := by
  obtain ⟨location, -, h⟩ := bind_eq_ok.mp h
  split at h
  · split at h
    · cases h
    · cases h
      simp [File.emptied]
  · cases h
  · cases h
  · cases h
    simp

@[simp] theorem setFile_self (fs : FileSystem) (id : ℕ) : fs.setFile id (fs.files id) = fs := by
  have hfiles : (fun n ↦ if n = id then fs.files id else fs.files n) = fs.files := by
    funext n
    split
    · next hn => rw [hn]
    · rfl
  rw [setFile, hfiles]

@[simp] theorem setFile_setFile (fs : FileSystem) (id : ℕ) (file file' : File) :
    (fs.setFile id file).setFile id file' = fs.setFile id file' := by
  have hfiles : (fun n ↦ if n = id then file' else (fs.setFile id file).files n) =
      fun n ↦ if n = id then file' else fs.files n := by
    funext n
    rw [files_setFile]
    split <;> rfl
  rw [setFile, hfiles]
  rfl

@[simp] theorem append_nil (fs : FileSystem) (id : ℕ) : fs.append id [] = (none, fs) := by
  rw [append, Stream.append_nil]
  exact congrArg (Prod.mk none) (setFile_self fs id)

theorem append_append (fs : FileSystem) (id : ℕ) (xs ys : List UInt8) :
    fs.append id (xs ++ ys) =
      match fs.append id xs with
      | (none, fs') => fs'.append id ys
      | (some error, fs') => (some error, fs') := by
  simp only [append, Stream.append_append]
  cases (fs.files id).stream.append xs with
  | mk error stream => cases error <;> simp

theorem bytes_of_append {bytes : List UInt8} (h : fs.append id bytes = (none, fs')) :
    (fs'.files id).stream.bytes = (fs.files id).stream.bytes ++ bytes := by
  cases happend : (fs.files id).stream.append bytes with
  | mk error stream =>
    simp only [append, happend, Prod.mk.injEq] at h
    obtain ⟨rfl, rfl⟩ := h
    rw [files_setFile, if_pos rfl, Stream.bytes_of_append happend]

theorem Touches.append (h : Touches fs path fs' location id) (bytes : List UInt8) :
    Touches fs path (fs'.append id bytes).2 location id where
  target := h.target
  file := h.file
  before := h.before
  fresh := h.fresh
  node := h.node
  content n hn := (if_neg hn).trans (h.content n hn)
  working := h.working

/-- These bytes, and no others, were written to the file that a path leads to. -/
def Keeps (fs : FileSystem) (path : SystemText) (bytes : List UInt8) : Prop :=
  ∃ id, fs.LeadsTo path id ∧ (fs.files id).stream.bytes = bytes

def IsPlain (fs : FileSystem) (path : SystemText) : Prop :=
  ∀ id, fs.LeadsTo path id → (fs.files id).device = none ∧ (fs.files id).unreadable = none

theorem Keeps.read {bytes : List UInt8} (h : fs.Keeps path bytes) (hplain : fs.IsPlain path) :
    fs.read path = .ok bytes := by
  obtain ⟨id, hleads, rfl⟩ := h
  obtain ⟨hdevice, hreadable⟩ := hplain id hleads
  refine read_eq_ok.mpr ⟨id, hleads, hreadable, ?_⟩
  rw [File.content, hdevice, Option.getD_none]

theorem keeps_append (hcreate : fs.create path = .ok (id, fs')) {bytes : List UInt8}
    {fs'' : FileSystem} (happend : fs'.append id bytes = (none, fs'')) : fs''.Keeps path bytes := by
  obtain ⟨location, htouches⟩ := touches_of_create hcreate
  have hafter := htouches.append bytes
  rw [happend] at hafter
  refine ⟨id, hafter.leadsTo, ?_⟩
  rw [bytes_of_append happend, bytes_of_create hcreate, List.nil_append]

/-- At most the file that a path leads to is created or changed. What does not lead to it reads as
it did. -/
structure OnlyChanges (path : SystemText) (fs fs' : FileSystem) : Prop where
  working : fs'.working = fs.working
  kept : ∀ l node, fs.node? l = some node → fs'.node? l = some node
  node : ∀ l, fs.locate true path ≠ .ok l → fs'.node? l = fs.node? l
  content : ∀ id, fs'.LeadsTo path id ∨ fs'.files id = fs.files id
  old : ∀ l id, fs'.LeadsTo path id → fs.node? l = some (.file id) → fs.LeadsTo path id
  read : ∀ other, (∃ id, fs'.LeadsTo path id ∧ fs'.LeadsTo other id) ∨
    ∀ bytes, fs'.read other = .ok bytes ↔ fs.read other = .ok bytes

theorem OnlyChanges.refl (path : SystemText) (fs : FileSystem) : OnlyChanges path fs fs :=
  ⟨rfl, fun _ _ hnode ↦ hnode, fun _ _ ↦ rfl, fun _ ↦ .inr rfl, fun _ _ hleads _ ↦ hleads,
    fun _ ↦ .inr fun _ ↦ Iff.rfl⟩

end FileSystem

end ShownText
