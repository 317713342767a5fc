import OpenRD.Foundation.CborItems

/-!
# Cuts that the web client's reader notices

The conditions on a cut under which its reader throws, or goes on for ever.
-/

namespace OpenRD.Web

open OpenRD.Foundation CborWire

/-! ## Which cuts the reader notices -/

/-- More elements than a script array takes. -/
def overflows : Kind → Nat → Bool
  | .array, count => decide (2 ^ 32 ≤ count)
  | .map, _ => false

/-- More entries than the loop over a map counts. -/
def endless : Kind → Nat → Bool
  | .array, _ => false
  | .map, count => decide (2 ^ 53 + 1 < count)

mutual

/-- Some array in an item overflows. -/
def overlong : Item → Bool
  | .container kind _ count items => overflows kind count || overlongAny items
  | _ => false

def overlongAny : List Item → Bool
  | [] => false
  | item :: items => overlong item || overlongAny items

end

/-- The reader throws before it comes to the item that is cut. -/
def refuses (container : Enclosing) : Bool :=
  overflows container.kind container.before.length || overlongAny container.before

/-- The reader wants more of the container once the item that is cut is read. -/
def runsOut (container : Enclosing) : Bool :=
  !container.after.isEmpty || overflows container.kind container.count

/-- The reader throws where the bytes end. -/
def placeThrows : Place → Bool
  | .start => true
  | .head major info present =>
      info == 27 || ((major == 4 || major == 5) && present.any (· != 0))
  | .contents => false

/-- The length of a string comes out as NaN. -/
def losesPosition : Place → Bool
  | .head major info [] => (major == 2 || major == 3) && (info == 24 || info == 26)
  | _ => false

/-- The kind of the innermost container that cannot be filled. -/
def unfillable (enclosing : List Enclosing) : Option Kind :=
  (enclosing.reverse.find? fun container =>
    overflows container.kind container.count || endless container.kind container.count).map
      (·.kind)

def cutThrows (cut : Cut) : Bool :=
  cut.enclosing.any refuses || placeThrows cut.place ||
    if losesPosition cut.place then unfillable cut.enclosing == some .array
    else cut.enclosing.any runsOut

def cutIsEndless (cut : Cut) : Bool :=
  !cut.enclosing.any refuses && losesPosition cut.place &&
    unfillable cut.enclosing == some .map

/-! ## The same from the inside out -/

inductive Fate where
  | thrown
  | forever
  /-- A value is returned, and the position is at the end of the bytes. -/
  | atEnd
  /-- A value is returned, and the position is NaN. -/
  | lost
  deriving DecidableEq, Repr

def placeFate (place : Place) : Fate :=
  if placeThrows place then .thrown else if losesPosition place then .lost else .atEnd

def fateIn (container : Enclosing) (fate : Fate) : Fate :=
  if refuses container then .thrown
  else
    match fate with
    | .thrown => .thrown
    | .forever => .forever
    | .atEnd => if runsOut container then .thrown else .atEnd
    | .lost =>
        if overflows container.kind container.count then .thrown
        else if endless container.kind container.count then .forever
        else .lost

def cutFate (cut : Cut) : Fate := cut.enclosing.foldr fateIn (placeFate cut.place)

theorem unfillable_cons (container : Enclosing) (enclosing : List Enclosing) :
    unfillable (container :: enclosing) = (unfillable enclosing).or
      (if overflows container.kind container.count then some .array
        else if endless container.kind container.count then some .map
        else none) := by
  rw [unfillable, List.reverse_cons, List.find?_append, Option.map_or]
  refine congrArg (unfillable enclosing).or ?_
  obtain ⟨kind, count, before, after⟩ := container
  cases kind with
  | array => simp [overflows, endless]
  | map => simp [overflows, endless]

theorem cutFate_nil (place : Place) : cutFate ⟨[], place⟩ = placeFate place := rfl

theorem cutFate_cons (container : Enclosing) (enclosing : List Enclosing) (place : Place) :
    cutFate ⟨container :: enclosing, place⟩ =
      fateIn container (cutFate ⟨enclosing, place⟩) := rfl

theorem cutFate_eq (enclosing : List Enclosing) (place : Place) :
    cutFate ⟨enclosing, place⟩ =
      if cutThrows ⟨enclosing, place⟩ then .thrown
      else if cutIsEndless ⟨enclosing, place⟩ then .forever
      else if losesPosition place then .lost
      else .atEnd := by
  induction enclosing with
  | nil =>
      rw [cutFate_nil, placeFate]
      by_cases hthrows : placeThrows place = true
      · simp [cutThrows, hthrows]
      · simp [cutThrows, cutIsEndless, unfillable, hthrows]
  | cons container enclosing ih =>
      rw [cutFate_cons, ih]
      unfold fateIn
      simp only [cutThrows, cutIsEndless, unfillable_cons, List.any_cons]
      by_cases hrefuses : refuses container = true
      · simp [hrefuses]
      · by_cases hinner : (enclosing.any refuses || placeThrows place) = true
        · simp [hrefuses, hinner]
        · rw [Bool.not_eq_true] at hrefuses hinner
          obtain ⟨henclosing, hplace⟩ := Bool.or_eq_false_iff.mp hinner
          by_cases hlost : losesPosition place = true
          · obtain hnone | ⟨kind, hinner⟩ := Option.eq_none_or_eq_some (unfillable enclosing)
            · by_cases hover : overflows container.kind container.count = true
              · simp [hrefuses, henclosing, hplace, hlost, hnone, hover]
              · by_cases hendless : endless container.kind container.count = true
                · simp [hrefuses, henclosing, hplace, hlost, hnone, hover, hendless]
                · simp [hrefuses, henclosing, hplace, hlost, hnone, hover, hendless]
            · cases kind <;> simp [hrefuses, henclosing, hplace, hlost, hinner]
          · by_cases hmore : enclosing.any runsOut = true
            · simp [hrefuses, henclosing, hplace, hlost, hmore]
            · cases runsOut container <;> simp [hrefuses, henclosing, hplace, hlost, hmore]

theorem cutFate_eq_thrown (cut : Cut) : cutFate cut = .thrown ↔ cutThrows cut = true := by
  obtain ⟨enclosing, place⟩ := cut
  rw [cutFate_eq]
  split_ifs with hthrows <;> simp [hthrows]

theorem placeThrows_of_loses {place : Place} (h : losesPosition place = true) :
    placeThrows place = false := by
  unfold losesPosition at h
  split at h
  · simp only [Bool.and_eq_true, Bool.or_eq_true, beq_iff_eq] at h
    obtain ⟨rfl | rfl, rfl | rfl⟩ := h <;> rfl
  · cases h

theorem cutThrows_of_endless {cut : Cut} (h : cutIsEndless cut = true) :
    cutThrows cut = false := by
  simp only [cutIsEndless, Bool.and_eq_true, Bool.not_eq_true', beq_iff_eq] at h
  obtain ⟨⟨hrefuses, hloses⟩, hmap⟩ := h
  simp [cutThrows, hrefuses, hloses, hmap, placeThrows_of_loses hloses]

theorem cutFate_eq_forever (cut : Cut) : cutFate cut = .forever ↔ cutIsEndless cut = true := by
  obtain ⟨enclosing, place⟩ := cut
  rw [cutFate_eq]
  by_cases hendless : cutIsEndless ⟨enclosing, place⟩ = true
  · simp [hendless, cutThrows_of_endless hendless]
  · split_ifs <;> simp [hendless]

end OpenRD.Web
