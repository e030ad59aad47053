import Mathlib.Logic.Function.Basic

/-!
# Handles to boxes

One side of an interface hands out handles, the other side allocates boxes, and a handle that is
backed owns one box.  A handle is made together with its box and destroyed together with it.

* `view_create`, `view_modify`, `view_destroy`: seen from outside, such a store is one table of
  tagged contents, and the addresses of the boxes do not matter.
* `Store.Owned`: what keeps it one, kept by the three operations.
* `Tabulates`: the table that a store comes to, when each tag and box are those of an object.
* `Owned.boxes_eq_none`: when the last handle is gone, so is the last box.
-/

namespace Boxes

variable {η β : Type}

/-- Handles with a tag and, when they are backed, the address of a box. -/
structure Store (η β : Type) where
  handles : Nat → Option (η × Option Nat)
  boxes : Nat → Option β
  nextHandle : Nat
  nextBox : Nat

namespace Store

def empty : Store η β := ⟨fun _ => none, fun _ => none, 0, 0⟩

/-- A new handle, with a box of its own when there is something to put in. -/
def create (s : Store η β) (tag : η) (box : Option β) : Store η β where
  handles := Function.update s.handles s.nextHandle (some (tag, box.map fun _ => s.nextBox))
  boxes := Function.update s.boxes s.nextBox box
  nextHandle := s.nextHandle + 1
  nextBox := s.nextBox + 1

/-- A handle goes, with its box. -/
def destroy (s : Store η β) (h : Nat) : Store η β where
  handles := Function.update s.handles h none
  boxes :=
    match s.handles h with
    | some (_, some c) => Function.update s.boxes c none
    | _ => s.boxes
  nextHandle := s.nextHandle
  nextBox := s.nextBox

/-- A handle changes its tag, and its box what is in it. -/
def modify (s : Store η β) (h : Nat) (f : η → η) (g : β → β) : Store η β where
  handles := Function.update s.handles h ((s.handles h).map fun x => (f x.1, x.2))
  boxes :=
    match s.handles h with
    | some (_, some c) => Function.update s.boxes c ((s.boxes c).map g)
    | _ => s.boxes
  nextHandle := s.nextHandle
  nextBox := s.nextBox

/-- What a handle stands for. -/
def view (s : Store η β) (h : Nat) : Option (η × Option β) :=
  (s.handles h).map fun x => (x.1, x.2.bind s.boxes)

/-- The context of a handle, where the handle has this tag. -/
def contextOf [DecidableEq η] (tag : η) (x : η × Option Nat) : Option (Option Nat) :=
  if x.1 = tag then some x.2 else none

/-- Every box has one handle, every handle its box, and what comes next is new. -/
structure Owned (s : Store η β) : Prop where
  new : ∀ h, s.nextHandle ≤ h → s.handles h = none
  newBox : ∀ c, s.nextBox ≤ c → s.boxes c = none
  backed : ∀ h tag c, s.handles h = some (tag, some c) → ∃ b, s.boxes c = some b
  unique : ∀ h h' tag tag' c, s.handles h = some (tag, some c) →
    s.handles h' = some (tag', some c) → h = h'
  owner : ∀ c b, s.boxes c = some b → ∃ h tag, s.handles h = some (tag, some c)

end Store

open Store

variable {s : Store η β} {h h' c : Nat} {tag : η} {b : β} {box : Option β}

theorem owned_empty : (Store.empty : Store η β).Owned where
  new _ _ := rfl
  newBox _ _ := rfl
  backed _ _ _ h := by cases h
  unique _ _ _ _ _ h := by cases h
  owner _ _ h := by cases h

@[simp] theorem view_empty (h : Nat) : (Store.empty : Store η β).view h = none := rfl

theorem view_eq_none : s.view h = none ↔ s.handles h = none := Option.map_eq_none_iff

/-- A handle without backing. -/
theorem view_of_unbacked (hh : s.handles h = some (tag, none)) : s.view h = some (tag, none) := by
  rw [Store.view, hh]
  rfl

/-- A backed handle leads to what it stands for. -/
theorem Store.Owned.view_of_backed (ho : s.Owned) (hh : s.handles h = some (tag, some c)) :
    ∃ b, s.boxes c = some b ∧ s.view h = some (tag, some b) := by
  obtain ⟨b, hb⟩ := ho.backed h tag c hh
  refine ⟨b, hb, ?_⟩
  rw [Store.view, hh]
  exact congrArg (fun x => some (tag, x)) hb

theorem Store.Owned.lt_nextBox (ho : s.Owned) (hh : s.handles h = some (tag, some c)) :
    c < s.nextBox := by
  obtain ⟨b, hb⟩ := ho.backed h tag c hh
  by_contra hle
  have hnone := ho.newBox c (Nat.not_lt.mp hle)
  cases hb.symm.trans hnone

/-! ### Making a handle -/

@[simp] theorem nextHandle_create (tag : η) (box : Option β) :
    (s.create tag box).nextHandle = s.nextHandle + 1 := rfl

theorem handles_create (s : Store η β) (tag : η) (box : Option β) :
    (s.create tag box).handles =
      Function.update s.handles s.nextHandle (some (tag, box.map fun _ => s.nextBox)) := rfl

theorem handles_create_of_ne (hx : h ≠ s.nextHandle) :
    (s.create tag box).handles h = s.handles h := Function.update_of_ne hx _ _

theorem boxes_create_self : (s.create tag box).boxes s.nextBox = box := Function.update_self _ _ _

theorem boxes_create_of_ne (hc : c ≠ s.nextBox) : (s.create tag box).boxes c = s.boxes c :=
  Function.update_of_ne hc _ _

/-- A handle after the creation: the new one, or an old one. -/
theorem Store.Owned.handles_cases (ho : s.Owned) {tag' : η}
    (hh : (s.create tag box).handles h = some (tag', some c)) :
    (h = s.nextHandle ∧ c = s.nextBox ∧ box ≠ none) ∨
      (h ≠ s.nextHandle ∧ c < s.nextBox ∧ s.handles h = some (tag', some c)) := by
  by_cases hx : h = s.nextHandle
  · subst hx
    rw [handles_create, Function.update_self] at hh
    cases box with
    | none => cases hh
    | some b =>
      cases hh
      exact .inl ⟨rfl, rfl, Option.some_ne_none b⟩
  · rw [handles_create_of_ne hx] at hh
    exact .inr ⟨hx, ho.lt_nextBox hh, hh⟩

/-- The table gains one entry, at the next address. -/
theorem view_create (ho : s.Owned) (tag : η) (box : Option β) :
    (s.create tag box).view = Function.update s.view s.nextHandle (some (tag, box)) := by
  funext x
  by_cases hx : x = s.nextHandle
  · subst hx
    rw [Function.update_self, Store.view, handles_create, Function.update_self]
    cases box with
    | none => rfl
    | some b => exact congrArg (fun y => some (tag, y)) boxes_create_self
  · rw [Function.update_of_ne hx, Store.view, Store.view, handles_create_of_ne hx]
    rcases hh : s.handles x with _ | ⟨tag', _ | c⟩
    · rfl
    · rfl
    · have hbox : (s.create tag box).boxes c = s.boxes c :=
        boxes_create_of_ne (Nat.ne_of_lt (ho.lt_nextBox hh))
      exact congrArg (fun y => some (tag', y)) hbox

theorem Store.Owned.create (ho : s.Owned) (tag : η) (box : Option β) :
    (s.create tag box).Owned where
  new x hx := by
    rw [nextHandle_create] at hx
    rw [handles_create_of_ne (by omega)]
    exact ho.new x (by omega)
  newBox c hc := by
    have hlt : s.nextBox < c := hc
    rw [boxes_create_of_ne (by omega)]
    exact ho.newBox c (by omega)
  backed x tag' c hh := by
    rcases ho.handles_cases hh with ⟨-, rfl, hbox⟩ | ⟨-, hlt, hh⟩
    · rw [boxes_create_self]
      exact Option.ne_none_iff_exists'.mp hbox
    · rw [boxes_create_of_ne (by omega)]
      exact ho.backed x tag' c hh
  unique x x' tag' tag'' c hh hh' := by
    rcases ho.handles_cases hh with ⟨rfl, rfl, -⟩ | ⟨-, hlt, hh⟩
    · rcases ho.handles_cases hh' with ⟨rfl, -, -⟩ | ⟨-, hlt, -⟩
      · rfl
      · omega
    · rcases ho.handles_cases hh' with ⟨-, rfl, -⟩ | ⟨-, -, hh'⟩
      · omega
      · exact ho.unique x x' tag' tag'' c hh hh'
  owner c b hb := by
    by_cases hc : c = s.nextBox
    · subst hc
      rw [boxes_create_self] at hb
      subst hb
      exact ⟨s.nextHandle, tag, Function.update_self _ _ _⟩
    · rw [boxes_create_of_ne hc] at hb
      obtain ⟨x, tag', hx⟩ := ho.owner c b hb
      have hne : x ≠ s.nextHandle := by
        rintro rfl
        cases (ho.new _ (Nat.le_refl _)).symm.trans hx
      exact ⟨x, tag', (handles_create_of_ne hne).trans hx⟩

/-! ### Destroying a handle -/

@[simp] theorem nextHandle_destroy (s : Store η β) (h : Nat) :
    (s.destroy h).nextHandle = s.nextHandle := rfl

theorem handles_destroy (s : Store η β) (h : Nat) :
    (s.destroy h).handles = Function.update s.handles h none := rfl

theorem handles_of_destroy {x : Nat} {y : η × Option Nat}
    (hx : (s.destroy h).handles x = some y) : x ≠ h ∧ s.handles x = some y := by
  rw [handles_destroy] at hx
  by_cases hxh : x = h
  · subst hxh
    rw [Function.update_self] at hx
    cases hx
  · rw [Function.update_of_ne hxh] at hx
    exact ⟨hxh, hx⟩

theorem boxes_destroy_self (hh : s.handles h = some (tag, some c)) :
    (s.destroy h).boxes c = none := by
  simp only [Store.destroy, hh]
  exact Function.update_self _ _ _

theorem boxes_destroy_of_ne (hc : ∀ tag, s.handles h ≠ some (tag, some c)) :
    (s.destroy h).boxes c = s.boxes c := by
  rcases hh : s.handles h with _ | ⟨tag, _ | c'⟩
  · simp only [Store.destroy, hh]
  · simp only [Store.destroy, hh]
  · have hne : c ≠ c' := by
      rintro rfl
      exact hc tag hh
    simp only [Store.destroy, hh]
    exact Function.update_of_ne hne _ _

/-- The boxes of the other handles stay. -/
theorem Store.Owned.boxes_destroy (ho : s.Owned) {x : Nat} (hx : x ≠ h)
    (hh : s.handles x = some (tag, some c)) : (s.destroy h).boxes c = s.boxes c :=
  boxes_destroy_of_ne fun tag' hh' => hx (ho.unique x h tag tag' c hh hh')

theorem boxes_of_destroy {b : β} (hb : (s.destroy h).boxes c = some b) :
    s.boxes c = some b ∧ ∀ tag, s.handles h ≠ some (tag, some c) := by
  have hc : ∀ tag, s.handles h ≠ some (tag, some c) := by
    intro tag hh
    cases (boxes_destroy_self hh).symm.trans hb
  rw [boxes_destroy_of_ne hc] at hb
  exact ⟨hb, hc⟩

/-- The table loses one entry. -/
theorem view_destroy (ho : s.Owned) (h : Nat) :
    (s.destroy h).view = Function.update s.view h none := by
  funext x
  by_cases hx : x = h
  · subst hx
    rw [Function.update_self, view_eq_none, handles_destroy, Function.update_self]
  · have hold : (s.destroy h).handles x = s.handles x := by
      rw [handles_destroy, Function.update_of_ne hx]
    rw [Function.update_of_ne hx, Store.view, Store.view, hold]
    rcases hh : s.handles x with _ | ⟨tag, _ | c⟩
    · rfl
    · rfl
    · exact congrArg (fun y => some (tag, y)) (ho.boxes_destroy hx hh)

theorem Store.Owned.destroy (ho : s.Owned) (h : Nat) : (s.destroy h).Owned where
  new x hx := by
    rw [nextHandle_destroy] at hx
    rcases hh : (s.destroy h).handles x with _ | y
    · rfl
    · cases (ho.new x hx).symm.trans (handles_of_destroy hh).2
  newBox c hc := by
    rcases hb : (s.destroy h).boxes c with _ | b
    · rfl
    · cases (ho.newBox c hc).symm.trans (boxes_of_destroy hb).1
  backed x tag c hx := by
    obtain ⟨hne, hold⟩ := handles_of_destroy hx
    rw [ho.boxes_destroy hne hold]
    exact ho.backed x tag c hold
  unique x x' tag tag' c hx hx' :=
    ho.unique x x' tag tag' c (handles_of_destroy hx).2 (handles_of_destroy hx').2
  owner c b hb := by
    obtain ⟨hold, hother⟩ := boxes_of_destroy hb
    obtain ⟨x, tag, hx⟩ := ho.owner c b hold
    have hne : x ≠ h := by
      rintro rfl
      exact hother tag hx
    refine ⟨x, tag, ?_⟩
    rw [handles_destroy, Function.update_of_ne hne]
    exact hx

/-! ### Changing what a handle stands for -/

section Modify

variable {f : η → η} {g : β → β}

@[simp] theorem nextHandle_modify (s : Store η β) (h : Nat) (f : η → η) (g : β → β) :
    (s.modify h f g).nextHandle = s.nextHandle := rfl

theorem handles_modify_self :
    (s.modify h f g).handles h = (s.handles h).map fun x => (f x.1, x.2) :=
  Function.update_self _ _ _

theorem handles_modify_of_ne (hx : h' ≠ h) : (s.modify h f g).handles h' = s.handles h' :=
  Function.update_of_ne hx _ _

theorem boxes_modify_self (hh : s.handles h = some (tag, some c)) :
    (s.modify h f g).boxes c = (s.boxes c).map g := by
  simp only [Store.modify, hh]
  exact Function.update_self _ _ _

theorem boxes_modify_of_ne (hc : ∀ tag, s.handles h ≠ some (tag, some c)) :
    (s.modify h f g).boxes c = s.boxes c := by
  rcases hh : s.handles h with _ | ⟨tag, _ | c'⟩
  · simp only [Store.modify, hh]
  · simp only [Store.modify, hh]
  · have hne : c ≠ c' := by
      rintro rfl
      exact hc tag hh
    simp only [Store.modify, hh]
    exact Function.update_of_ne hne _ _

/-- The contexts stay as they are. -/
theorem handles_of_modify (hh : (s.modify h f g).handles h' = some (tag, some c)) :
    ∃ tag, s.handles h' = some (tag, some c) := by
  by_cases hx : h' = h
  · subst hx
    rw [handles_modify_self] at hh
    obtain ⟨⟨old, ctx⟩, hold, heq⟩ := Option.map_eq_some_iff.mp hh
    obtain ⟨-, rfl⟩ := Prod.mk.inj heq
    exact ⟨old, hold⟩
  · rw [handles_modify_of_ne hx] at hh
    exact ⟨tag, hh⟩

theorem handles_modify_of_some (hh : s.handles h' = some (tag, some c)) :
    ∃ tag, (s.modify h f g).handles h' = some (tag, some c) := by
  by_cases hx : h' = h
  · subst hx
    rw [handles_modify_self, hh]
    exact ⟨f tag, rfl⟩
  · rw [handles_modify_of_ne hx]
    exact ⟨tag, hh⟩

/-- One entry of the table changes. -/
theorem view_modify (ho : s.Owned) (h : Nat) (f : η → η) (g : β → β) :
    (s.modify h f g).view =
      Function.update s.view h ((s.view h).map fun x => (f x.1, x.2.map g)) := by
  funext x
  by_cases hx : x = h
  · subst hx
    rw [Function.update_self, Store.view, handles_modify_self, Store.view]
    rcases hh : s.handles x with _ | ⟨tag, _ | c⟩
    · rfl
    · rfl
    · exact congrArg (fun y => some (f tag, y)) (boxes_modify_self hh)
  · rw [Function.update_of_ne hx, Store.view, Store.view, handles_modify_of_ne hx]
    rcases hh : s.handles x with _ | ⟨tag, _ | c⟩
    · rfl
    · rfl
    · have hbox : (s.modify h f g).boxes c = s.boxes c :=
        boxes_modify_of_ne fun tag' hh' => hx (ho.unique x h tag tag' c hh hh')
      exact congrArg (fun y => some (tag, y)) hbox

theorem boxes_modify_eq_none (c : Nat) : (s.modify h f g).boxes c = none ↔ s.boxes c = none := by
  by_cases hc : ∃ tag, s.handles h = some (tag, some c)
  · obtain ⟨tag, hh⟩ := hc
    rw [boxes_modify_self hh, Option.map_eq_none_iff]
  · rw [boxes_modify_of_ne fun tag hh => hc ⟨tag, hh⟩]

theorem Store.Owned.modify (ho : s.Owned) (h : Nat) (f : η → η) (g : β → β) :
    (s.modify h f g).Owned where
  new x hx := by
    have hold := ho.new x hx
    by_cases hxh : x = h
    · subst hxh
      rw [handles_modify_self, hold]
      rfl
    · rw [handles_modify_of_ne hxh]
      exact hold
  newBox c hc := (boxes_modify_eq_none c).mpr (ho.newBox c hc)
  backed x tag c hx := by
    obtain ⟨old, hold⟩ := handles_of_modify hx
    obtain ⟨b, hb⟩ := ho.backed x old c hold
    refine Option.ne_none_iff_exists'.mp fun hnone => ?_
    cases ((boxes_modify_eq_none c).mp hnone).symm.trans hb
  unique x x' tag tag' c hx hx' := by
    obtain ⟨old, hold⟩ := handles_of_modify hx
    obtain ⟨old', hold'⟩ := handles_of_modify hx'
    exact ho.unique x x' old old' c hold hold'
  owner c b hb := by
    have hne : s.boxes c ≠ none := fun hnone => by
      cases ((boxes_modify_eq_none c).mpr hnone).symm.trans hb
    obtain ⟨b', hb'⟩ := Option.ne_none_iff_exists'.mp hne
    obtain ⟨x, tag, hx⟩ := ho.owner c b' hb'
    exact ⟨x, handles_modify_of_some hx⟩

end Modify

/-! ### Tables of objects -/

/-- What is new is put behind what is there. -/
theorem added_of_lt {ω : Type} {objects : Nat → Option ω} {next x : Nat} (hx : x < next)
    (object : Option ω) : Function.update objects next object x = objects x :=
  Function.update_of_ne (Nat.ne_of_lt hx) _ _

/-- What the context of a handle leads to. -/
def Store.Backs (s : Store η β) : Option Nat → Option β → Prop
  | none, box => box = none
  | some c, box => ∃ b, s.boxes c = some b ∧ box = some b

/-- The handles and the boxes come to the objects of a table, of which each has its tag and what is
in its box. -/
structure Tabulates {ω : Type} (tag : ω → η) (box : ω → Option β) (s : Store η β)
    (objects : Nat → Option ω) : Prop where
  owned : s.Owned
  view : ∀ h, s.view h = (objects h).map fun object => (tag object, box object)

section Tabulates

variable {ω : Type} {tag : ω → η} {box : ω → Option β} {objects : Nat → Option ω} {object : ω}

theorem tabulates_empty : Tabulates tag box Store.empty fun _ => none := ⟨owned_empty, fun _ => rfl⟩

theorem Tabulates.create (ht : Tabulates tag box s objects) (object : ω) :
    Tabulates tag box (s.create (tag object) (box object))
      (Function.update objects s.nextHandle (some object)) where
  owned := ht.owned.create _ _
  view x := by
    rw [view_create ht.owned]
    by_cases hx : x = s.nextHandle
    · subst hx
      rw [Function.update_self, Function.update_self]
      rfl
    · rw [Function.update_of_ne hx, Function.update_of_ne hx, ht.view]

theorem Tabulates.destroy (ht : Tabulates tag box s objects) (h : Nat) :
    Tabulates tag box (s.destroy h) (Function.update objects h none) where
  owned := ht.owned.destroy h
  view x := by
    rw [view_destroy ht.owned]
    by_cases hx : x = h
    · subst hx
      rw [Function.update_self, Function.update_self]
      rfl
    · rw [Function.update_of_ne hx, Function.update_of_ne hx, ht.view]

/-- An object becomes another one when its tag and its box do. -/
theorem Tabulates.modify (ht : Tabulates tag box s objects) (hx : objects h = some object)
    {object' : ω} {f : η → η} {g : β → β} (hf : f (tag object) = tag object')
    (hg : (box object).map g = box object') :
    Tabulates tag box (s.modify h f g) (Function.update objects h (some object')) where
  owned := ht.owned.modify h f g
  view x := by
    rw [view_modify ht.owned]
    by_cases hx' : x = h
    · subst hx'
      rw [Function.update_self, Function.update_self, ht.view, hx]
      simp only [Option.map_some, hf, hg]
    · rw [Function.update_of_ne hx', Function.update_of_ne hx', ht.view]

/-- A handle that stands for an object has its tag, and a context that leads to its box. -/
theorem Tabulates.handle (ht : Tabulates tag box s objects) (hx : objects h = some object) :
    ∃ ctx, s.handles h = some (tag object, ctx) ∧ s.Backs ctx (box object) := by
  have hview := ht.view h
  rw [hx, Option.map_some] at hview
  rcases hh : s.handles h with _ | ⟨tag', _ | c⟩
  · rw [view_eq_none.mpr hh] at hview
    cases hview
  · rw [view_of_unbacked hh] at hview
    obtain ⟨rfl, hbox⟩ := Prod.mk.inj (Option.some.inj hview)
    exact ⟨none, rfl, hbox.symm⟩
  · obtain ⟨b, hb, hbacked⟩ := ht.owned.view_of_backed hh
    rw [hbacked] at hview
    obtain ⟨rfl, hbox⟩ := Prod.mk.inj (Option.some.inj hview)
    exact ⟨some c, rfl, b, hb, hbox.symm⟩

theorem Tabulates.no_handle (ht : Tabulates tag box s objects) (hx : objects h = none) :
    s.handles h = none := by
  have hview := ht.view h
  rw [hx] at hview
  exact view_eq_none.mp hview

/-- An object is under an old handle. -/
theorem Tabulates.lt_next (ht : Tabulates tag box s objects) {next : Nat}
    (hnext : s.nextHandle = next) (hx : objects h = some object) : h < next := by
  obtain ⟨ctx, hh, -⟩ := ht.handle hx
  by_contra hle
  rw [← hnext] at hle
  cases (ht.owned.new h (Nat.not_lt.mp hle)).symm.trans hh

end Tabulates

/-- **Nothing is leaked**: when no handle is left, no box is left. -/
theorem Store.Owned.boxes_eq_none (ho : s.Owned) (hnone : ∀ h, s.view h = none) (c : Nat) :
    s.boxes c = none := by
  rcases hb : s.boxes c with _ | b
  · rfl
  · obtain ⟨h, tag, hh⟩ := ho.owner c b hb
    cases (view_eq_none.mp (hnone h)).symm.trans hh

end Boxes
