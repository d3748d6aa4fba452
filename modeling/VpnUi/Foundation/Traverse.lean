import Mathlib.Data.List.Forall2

namespace VpnUi.Foundation

/-! Lists whose items correspond one by one. -/

variable {Item Image : Type*} {Related : Item → Image → Prop}

theorem forall₂_of_mapM {convert : Item → Option Image} {items : List Item}
    {images : List Image} (done : items.mapM convert = some images) :
    List.Forall₂ (fun item image => convert item = some image) items
      images := by
  induction items generalizing images with
  | nil =>
      obtain rfl := Option.some.inj done
      exact List.Forall₂.nil
  | cons item items induction =>
      simp only [List.mapM_cons, bind, pure, Option.bind_eq_some_iff,
        Option.some.injEq] at done
      obtain ⟨image, converted, tail, tailDone, rfl⟩ := done
      exact List.Forall₂.cons converted (induction tailDone)

theorem getElem?_of_forall₂ {items : List Item} {images : List Image}
    (related : List.Forall₂ Related items images) {index : Nat} {item : Item}
    (found : items[index]? = some item) :
    ∃ image, images[index]? = some image ∧ Related item image := by
  induction related generalizing index with
  | nil => cases found
  | @cons first image _ _ head _ induction =>
      cases index with
      | zero =>
          obtain rfl : first = item := by simpa using found
          exact ⟨image, rfl, head⟩
      | succ index => exact induction (by simpa using found)

theorem mem_left_of_forall₂ {items : List Item} {images : List Image}
    (related : List.Forall₂ Related items images) {item : Item}
    (member : item ∈ items) : ∃ image ∈ images, Related item image := by
  obtain ⟨index, inside, rfl⟩ := List.getElem_of_mem member
  obtain ⟨image, found, same⟩ := getElem?_of_forall₂ related
    (List.getElem?_eq_getElem inside)
  exact ⟨image, List.mem_of_getElem? found, same⟩

theorem mem_right_of_forall₂ {items : List Item} {images : List Image}
    (related : List.Forall₂ Related items images) {image : Image}
    (member : image ∈ images) : ∃ item ∈ items, Related item image := by
  induction related with
  | nil => cases member
  | @cons first other _ _ head _ induction =>
      rcases List.mem_cons.mp member with rfl | later
      · exact ⟨first, List.mem_cons_self, head⟩
      · obtain ⟨item, itemMember, same⟩ := induction later
        exact ⟨item, List.mem_cons_of_mem first itemMember, same⟩

/-- Each item is converted in view of the ones before it. -/
def mapEarlier (convert : List Item → Item → Image) :
    List Item → List Item → List Image
  | _, [] => []
  | earlier, item :: items =>
      convert earlier item :: mapEarlier convert (earlier ++ [item]) items

theorem getElem?_mapEarlier {convert : List Item → Item → Image}
    {earlier before after : List Item} {item : Item} :
    (mapEarlier convert earlier (before ++ item :: after))[before.length]? =
      some (convert (earlier ++ before) item) := by
  induction before generalizing earlier with
  | nil => simp [mapEarlier]
  | cons first before induction =>
      simpa [mapEarlier] using @induction (earlier ++ [first])

theorem forall₂_mapEarlier_iff {Other : Type*} {Same : Image → Other → Prop}
    {convert : List Item → Item → Image} {plain : Item → Other}
    {earlier items : List Item} :
    List.Forall₂ Same (mapEarlier convert earlier items) (items.map plain) ↔
      ∀ before item after, items = before ++ item :: after →
        Same (convert (earlier ++ before) item) (plain item) := by
  induction items generalizing earlier with
  | nil =>
      refine iff_of_true .nil fun before item after split => ?_
      simp at split
  | cons first rest induction =>
      rw [mapEarlier, List.map_cons, List.forall₂_cons, induction]
      constructor
      · rintro ⟨head, tail⟩ before item after split
        cases before with
        | nil =>
            obtain ⟨rfl, rfl⟩ := List.cons.inj split
            rwa [List.append_nil]
        | cons other before =>
            obtain ⟨rfl, later⟩ := List.cons.inj split
            simpa using tail before item after later
      · intro every
        refine ⟨by simpa using every [] first rest rfl, ?_⟩
        intro before item after split
        simpa using every (first :: before) item after (by rw [split]; rfl)

/-- Two loops that correspond in each round correspond as a whole. -/
theorem forall₂_flatten_of_mapM {Other : Type*} {Same : Image → Other → Prop}
    {convert : Item → Option (List Image)} {plain : Item → List Other}
    {items : List Item}
    (each : ∀ item ∈ items, ∃ images, convert item = some images ∧
      List.Forall₂ Same images (plain item)) :
    ∃ images, items.mapM convert = some images ∧
      List.Forall₂ Same images.flatten (items.flatMap plain) := by
  induction items with
  | nil => exact ⟨[], rfl, .nil⟩
  | cons item items induction =>
      obtain ⟨head, converted, same⟩ := each item List.mem_cons_self
      obtain ⟨tail, rest, later⟩ := induction fun other member =>
        each other (List.mem_cons_of_mem _ member)
      refine ⟨head :: tail, ?_, ?_⟩
      · simp [List.mapM_cons, converted, rest]
      · rw [List.flatten_cons, List.flatMap_cons]
        exact List.rel_append same later

theorem mapM_congr_option {convert other : Item → Option Image} {items : List Item}
    (same : ∀ item ∈ items, convert item = other item) :
    items.mapM convert = items.mapM other := by
  induction items with
  | nil => rfl
  | cons item rest induction =>
      rw [List.forall_mem_cons] at same
      rw [List.mapM_cons, List.mapM_cons, same.1, induction same.2]

/-- A list with another item of the same image. -/
theorem mapM_set {convert : Item → Option Image} {items : List Item}
    {index : Nat} {old new : Item} (found : items[index]? = some old)
    (same : convert new = convert old) :
    (items.set index new).mapM convert = items.mapM convert := by
  induction items generalizing index with
  | nil => rfl
  | cons head rest induction =>
      cases index with
      | zero =>
          obtain rfl := Option.some.inj found
          rw [List.set_cons_zero, List.mapM_cons, List.mapM_cons, same]
      | succ index =>
          rw [List.set_cons_succ, List.mapM_cons, List.mapM_cons,
            induction found]

theorem forall_split_cons {holds : List Item → Item → Prop} {first : Item}
    {rest : List Item} :
    (∀ before item after, first :: rest = before ++ item :: after →
      holds before item) ↔
      holds [] first ∧ ∀ before item after, rest = before ++ item :: after →
        holds (first :: before) item := by
  constructor
  · intro every
    refine ⟨every [] first rest rfl, fun before item after split => ?_⟩
    exact every (first :: before) item after (by rw [split]; rfl)
  · rintro ⟨head, tail⟩ before item after split
    cases before with
    | nil =>
        obtain ⟨rfl, rfl⟩ := List.cons.inj split
        exact head
    | cons other before =>
        obtain ⟨rfl, later⟩ := List.cons.inj split
        exact tail before item after later

end VpnUi.Foundation
