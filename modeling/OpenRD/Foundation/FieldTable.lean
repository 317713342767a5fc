import Mathlib.Data.List.Pairwise
import OpenRD.Foundation.KeyedFold

/-!
# Readers given by a table of fields

A reader that fills a record from a map is a table: one row for each key it
knows, with what the value under that key does to the record.  When the rows
touch different parts of the record, the reader obeys the laws of keyed folds.
-/

namespace OpenRD.Foundation

/-- What a reader does with the value under one key it knows. -/
structure Field (κ V S : Type) where
  key : κ
  store : V → S → S

namespace Field

variable {κ V S T : Type}

/-- Stores what `cast` makes of the value, and keeps the old content if nothing. -/
def keep (key : κ) (cast : V → Option T) (set : T → S → S) : Field κ V S where
  key
  store value state :=
    match cast value with
    | some content => set content state
    | none => state

/-- Stores what `cast` makes of the value, whatever it is. -/
def replace (key : κ) (cast : V → T) (set : T → S → S) : Field κ V S where
  key
  store value state := set (cast value) state

@[simp] theorem key_keep {key : κ} {cast : V → Option T} {set : T → S → S} :
    (keep key cast set).key = key := rfl

@[simp] theorem key_replace {key : κ} {cast : V → T} {set : T → S → S} :
    (replace key cast set).key = key := rfl

theorem part_keep {P : Type} (part : S → P) {key : κ} {cast : V → Option T}
    {set : T → S → S} (h : ∀ content state, part (set content state) = part state)
    (value : V) (state : S) : part ((keep key cast set).store value state) = part state := by
  unfold keep
  cases hcast : cast value with
  | none => simp only [hcast]
  | some content => simp only [hcast, h]

theorem part_replace {P : Type} (part : S → P) {key : κ} {cast : V → T}
    {set : T → S → S} (h : ∀ content state, part (set content state) = part state)
    (value : V) (state : S) :
    part ((replace key cast set).store value state) = part state :=
  h (cast value) state

theorem related_keep {S' : Type} {R : S → S' → Prop} {key : κ} {cast : V → Option T}
    {set : T → S → S} {set' : T → S' → S'} {state : S} {state' : S'}
    (hset : ∀ content, R (set content state) (set' content state'))
    (h : R state state') (value : V) :
    R ((keep key cast set).store value state) ((keep key cast set').store value state') := by
  unfold keep
  cases hcast : cast value with
  | none => simpa only [hcast] using h
  | some content => simpa only [hcast] using hset content

theorem related_keep_alone {S' : Type} {R : S → S' → Prop} {key : κ}
    {cast : V → Option T} {set : T → S → S} {state : S} {state' : S'}
    (hset : ∀ content, R (set content state) state') (h : R state state') (value : V) :
    R ((keep key cast set).store value state) state' := by
  unfold keep
  cases hcast : cast value with
  | none => simpa only [hcast] using h
  | some content => simpa only [hcast] using hset content

/-- One reader forgets what it had when a value cannot be cast, the other keeps it. -/
theorem related_replace_keep {S' : Type} {R : S → S' → Prop} {key : κ}
    {cast : V → Option T} {set : Option T → S → S} {set' : T → S' → S'}
    {state : S} {state' : S'}
    (hset : ∀ content, R (set (some content) state) (set' content state'))
    (hforget : R (set none state) state') (value : V) :
    R ((replace key cast set).store value state)
      ((keep key cast set').store value state') := by
  unfold replace keep
  cases hcast : cast value with
  | none => simpa only [hcast] using hforget
  | some content => simpa only [hcast] using hset content

def Commutes (first second : Field κ V S) : Prop :=
  ∀ value value' state,
    first.store value (second.store value' state) =
      second.store value' (first.store value state)

instance : Std.Symm (Commutes (κ := κ) (V := V) (S := S)) where
  symm _ _ h value value' state := (h value' value state).symm

variable {T' : Type} {key key' : κ}

@[simp] theorem keep_commutes_keep {cast : V → Option T} {cast' : V → Option T'}
    {set : T → S → S} {set' : T' → S → S}
    (h : ∀ content content' state,
      set content (set' content' state) = set' content' (set content state)) :
    (keep key cast set).Commutes (keep key' cast' set') := by
  intro value value' state
  cases hfirst : cast value <;> cases hsecond : cast' value' <;>
    simp only [keep, hfirst, hsecond, h]

@[simp] theorem replace_commutes_replace {cast : V → T} {cast' : V → T'}
    {set : T → S → S} {set' : T' → S → S}
    (h : ∀ content content' state,
      set content (set' content' state) = set' content' (set content state)) :
    (replace key cast set).Commutes (replace key' cast' set') :=
  fun value value' state => h (cast value) (cast' value') state

@[simp] theorem replace_commutes_keep {cast : V → T} {cast' : V → Option T'}
    {set : T → S → S} {set' : T' → S → S}
    (h : ∀ content content' state,
      set content (set' content' state) = set' content' (set content state)) :
    (replace key cast set).Commutes (keep key' cast' set') := by
  intro value value' state
  cases hsecond : cast' value' <;> simp only [keep, replace, hsecond, h]

@[simp] theorem keep_commutes_replace {cast : V → Option T} {cast' : V → T'}
    {set : T → S → S} {set' : T' → S → S}
    (h : ∀ content content' state,
      set content (set' content' state) = set' content' (set content state)) :
    (keep key cast set).Commutes (replace key' cast' set') :=
  Std.Symm.symm _ _ (replace_commutes_keep fun content content' state =>
    (h content' content state).symm)

end Field

section Table

variable {K κ V S : Type} [DecidableEq κ]

def storeField (fields : List (Field κ V S)) (key : κ) (value : V) (state : S) : S :=
  match fields.find? fun field => field.key = key with
  | some field => field.store value state
  | none => state

/-- Reads the entries of a map, the keys recognized by `key?`, into `start`. -/
def readFields (key? : K → Option κ) (fields : List (Field κ V S)) (start : S)
    (entries : List (K × V)) : S :=
  foldKeyed key? (storeField fields) start entries

/-- Rows for different keys touch different parts of the record. -/
def Separate (fields : List (Field κ V S)) : Prop :=
  fields.Pairwise Field.Commutes

@[simp] theorem storeField_nil (key : κ) (value : V) (state : S) :
    storeField [] key value state = state := rfl

theorem storeField_cons (field : Field κ V S) (fields : List (Field κ V S)) (key : κ)
    (value : V) (state : S) :
    storeField (field :: fields) key value state =
      if field.key = key then field.store value state
      else storeField fields key value state := by
  unfold storeField
  rw [List.find?_cons]
  by_cases hkey : field.key = key <;> simp [hkey]

theorem storeField_of_not_mem {fields : List (Field κ V S)} {key : κ}
    (h : key ∉ fields.map Field.key) (value : V) (state : S) :
    storeField fields key value state = state := by
  have hnone : fields.find? (fun field => field.key = key) = none := by
    rw [List.find?_eq_none]
    intro field hmem hkey
    exact h (List.mem_map.mpr ⟨field, hmem, by simpa using hkey⟩)
  simp only [storeField, hnone]

theorem storeField_related {fields : List (Field κ V S)} {key : κ} {R : S → S → Prop}
    {value : V} {state state' : S} (h : R state state')
    (hrow : ∀ field ∈ fields, field.key = key →
      R (field.store value state) (field.store value state')) :
    R (storeField fields key value state) (storeField fields key value state') := by
  unfold storeField
  cases hfind : fields.find? (fun field => field.key = key) with
  | none => exact h
  | some field =>
      exact hrow field (List.mem_of_find?_eq_some hfind) (by simpa using List.find?_some hfind)

/-- What only the row for `key` can break, the values under other keys do not. -/
theorem storeField_else {fields : List (Field κ V S)} {key : κ} {R : S → S → Prop}
    (hrefl : ∀ state, R state state)
    (hrow : ∀ field ∈ fields, field.key ≠ key → ∀ value state,
      R (field.store value state) state)
    {key' : κ} (hne : key' ≠ key) (value : V) (state : S) :
    R (storeField fields key' value state) state := by
  unfold storeField
  cases hfind : fields.find? (fun field => field.key = key') with
  | none => exact hrefl state
  | some field =>
      have hkey : field.key = key' := by simpa using List.find?_some hfind
      exact hrow field (List.mem_of_find?_eq_some hfind) (hkey ▸ hne) value state

theorem part_storeField_else {P : Type} {fields : List (Field κ V S)} {key : κ}
    (part : S → P)
    (hrow : ∀ field ∈ fields, field.key ≠ key → ∀ value state,
      part (field.store value state) = part state)
    {key' : κ} (hne : key' ≠ key) (value : V) (state : S) :
    part (storeField fields key' value state) = part state :=
  storeField_else (R := fun state state' => part state = part state') (fun _ => rfl)
    hrow hne value state

theorem Separate.independent {fields : List (Field κ V S)} (h : Separate fields) :
    Independent (storeField fields) := by
  intro key key' hne value value' state
  cases hfirst : fields.find? (fun field => field.key = key) with
  | none => simp only [storeField, hfirst]
  | some first =>
      cases hsecond : fields.find? (fun field => field.key = key') with
      | none => simp only [storeField, hfirst, hsecond]
      | some second =>
          have hkey : first.key = key := by simpa using List.find?_some hfirst
          have hkey' : second.key = key' := by simpa using List.find?_some hsecond
          have hne' : first ≠ second := by
            rintro rfl
            exact hne (hkey.symm.trans hkey')
          simp only [storeField, hfirst, hsecond]
          exact h.forall (List.mem_of_find?_eq_some hfirst)
            (List.mem_of_find?_eq_some hsecond) hne' value value' state

@[simp] theorem readFields_nil (key? : K → Option κ) (fields : List (Field κ V S))
    (start : S) : readFields key? fields start [] = start := rfl

theorem readFields_cons (key? : K → Option κ) (fields : List (Field κ V S)) (start : S)
    (entry : K × V) (entries : List (K × V)) :
    readFields key? fields start (entry :: entries) =
      readFields key? fields
        (match key? entry.1 with
          | none => start
          | some key => storeField fields key entry.2 start) entries := rfl

/-- What `read` makes of the values under `key`, in wire order. -/
def readUnder {T : Type} (key? : K → Option κ) (key : κ) (read : V → Option T)
    (entries : List (K × V)) : List T :=
  entries.filterMap fun entry => if key? entry.1 = some key then read entry.2 else none

theorem readUnder_cons {T : Type} (key? : K → Option κ) (key : κ) (read : V → Option T)
    (entry : K × V) (entries : List (K × V)) :
    readUnder key? key read (entry :: entries) =
      (if key? entry.1 = some key then (read entry.2).toList else []) ++
        readUnder key? key read entries := by
  unfold readUnder
  rw [List.filterMap_cons]
  by_cases hkey : key? entry.1 = some key
  · cases read entry.2 <;> simp [hkey]
  · simp [hkey]

theorem readFields_column {T : Type} (key? : K → Option κ)
    {fields : List (Field κ V S)} {part : S → T} {key : κ} {read : V → Option T}
    (hhere : ∀ value state,
      part (storeField fields key value state) = (read value).getD (part state))
    (helse : ∀ key', key' ≠ key → ∀ value state,
      part (storeField fields key' value state) = part state)
    (start : S) (entries : List (K × V)) :
    part (readFields key? fields start entries) =
      (readUnder key? key read entries).getLast?.getD (part start) := by
  induction entries generalizing start with
  | nil => rfl
  | cons entry entries ih =>
      unfold readFields
      rw [foldKeyed_cons, readUnder, List.filterMap_cons]
      refine (ih _).trans ?_
      cases hkey : key? entry.1 with
      | none => rfl
      | some key' =>
          by_cases heq : key' = key
          · subst heq
            rw [hhere, if_pos rfl]
            cases hread : read entry.2 with
            | none => rfl
            | some content =>
                simp only [Option.getD_some, List.getLast?_cons]
                rfl
          · rw [helse key' heq, if_neg (by simpa using heq)]
            rfl

theorem readUnder_map {T T' : Type} (key? : K → Option κ) (key : κ) (read : V → Option T)
    (f : T → T') (entries : List (K × V)) :
    readUnder key? key (fun value => (read value).map f) entries =
      (readUnder key? key read entries).map f := by
  unfold readUnder
  rw [List.map_filterMap]
  congr 1
  funext entry
  split <;> rfl

theorem getLast?_readUnder_bind {T T' : Type} (key? : K → Option κ) (key : κ)
    (read : V → Option T) (items : T → List T') (entries : List (K × V)) :
    (readUnder key? key (fun value => (read value).bind fun content =>
      (items content).getLast?) entries).getLast? =
      ((readUnder key? key read entries).flatMap items).getLast? := by
  induction entries with
  | nil => rfl
  | cons entry entries ih =>
      rw [readUnder_cons, readUnder_cons, List.getLast?_append, ih, List.flatMap_append,
        List.getLast?_append]
      congr 1
      split
      · cases read entry.2 with
        | none => rfl
        | some content => cases hlast : (items content).getLast? <;> simp [hlast]
      · rfl

/-- The values under `key`, in wire order. -/
def valuesUnder (key? : K → Option κ) (key : κ) (entries : List (K × V)) : List V :=
  readUnder key? key some entries

theorem valuesUnder_cons (key? : K → Option κ) (key : κ) (entry : K × V)
    (entries : List (K × V)) :
    valuesUnder key? key (entry :: entries) =
      if key? entry.1 = some key then entry.2 :: valuesUnder key? key entries
      else valuesUnder key? key entries := by
  unfold valuesUnder readUnder
  rw [List.filterMap_cons]
  by_cases hkey : key? entry.1 = some key <;> simp [hkey]

theorem valuesUnder_filter (key? : K → Option κ) {key removed : κ} (hne : key ≠ removed)
    (entries : List (K × V)) :
    valuesUnder key? key (entries.filter fun entry => key? entry.1 ≠ some removed) =
      valuesUnder key? key entries := by
  induction entries with
  | nil => rfl
  | cons entry entries ih =>
      rw [valuesUnder_cons]
      by_cases hremoved : key? entry.1 = some removed
      · have hkey : key? entry.1 ≠ some key := by simp [hremoved, hne.symm]
        rw [List.filter_cons_of_neg (by simpa using hremoved), ih, if_neg hkey]
      · rw [List.filter_cons_of_pos (by simpa using hremoved), valuesUnder_cons, ih]

/-- What the reader leaves under one key depends on the values under that key alone. -/
theorem readFields_valuesUnder (key? : K → Option κ) {fields : List (Field κ V S)}
    {key : κ} {R : S → S → Prop} (hR : Equivalence R)
    (hhere : ∀ value state state', R state state' →
      R (storeField fields key value state) (storeField fields key value state'))
    (helse : ∀ key', key' ≠ key → ∀ value state,
      R (storeField fields key' value state) state)
    {start start' : S} (hstart : R start start') (entries : List (K × V)) :
    R (readFields key? fields start entries)
      ((valuesUnder key? key entries).foldl
        (fun state value => storeField fields key value state) start') := by
  induction entries generalizing start start' with
  | nil => exact hstart
  | cons entry entries ih =>
      rw [readFields_cons, valuesUnder_cons]
      cases hkey : key? entry.1 with
      | none =>
          rw [if_neg (by simp)]
          exact ih hstart
      | some key' =>
          by_cases heq : key' = key
          · subst heq
            rw [if_pos rfl, List.foldl_cons]
            exact ih (hhere entry.2 _ _ hstart)
          · rw [if_neg (by simpa using heq)]
            exact ih (hR.trans (helse key' heq entry.2 start) hstart)

/-- A part of the record that one row alone stores: its last content, or what was there. -/
theorem readFields_keep {T P : Type} (key? : K → Option κ) {fields : List (Field κ V S)}
    (key : κ) {cast : V → Option T} {set : T → S → S} (part : S → P) {view : T → P}
    (hfind : fields.find? (fun field => field.key = key) = some (.keep key cast set))
    (hset : ∀ content state, part (set content state) = view content)
    (hrow : ∀ field ∈ fields, field.key ≠ key → ∀ value state,
      part (field.store value state) = part state)
    (start : S) (entries : List (K × V)) :
    part (readFields key? fields start entries) =
      ((readUnder key? key cast entries).getLast?.map view).getD (part start) := by
  rw [← List.getLast?_map, ← readUnder_map]
  refine readFields_column key? ?_ ?_ start entries
  · intro value state
    simp only [storeField, hfind, Field.keep]
    cases cast value with
    | none => rfl
    | some content => exact hset content state
  · intro key' hne
    exact part_storeField_else part hrow hne

/-- A part of the record that one row alone replaces: what its last value becomes. -/
theorem readFields_replace {T P : Type} (key? : K → Option κ) {fields : List (Field κ V S)}
    (key : κ) {cast : V → T} {set : T → S → S} (part : S → P) (view : T → P)
    (hfind : fields.find? (fun field => field.key = key) = some (.replace key cast set))
    (hset : ∀ content state, part (set content state) = view content)
    (hrow : ∀ field ∈ fields, field.key ≠ key → ∀ value state,
      part (field.store value state) = part state)
    (start : S) (entries : List (K × V)) :
    part (readFields key? fields start entries) =
      ((valuesUnder key? key entries).getLast?.map fun value => view (cast value)).getD
        (part start) := by
  rw [← List.getLast?_map, valuesUnder, ← readUnder_map]
  refine readFields_column key? ?_ ?_ start entries
  · intro value state
    simp only [storeField, hfind, Field.replace, hset, Option.map_some, Option.getD_some]
  · intro key' hne
    exact part_storeField_else part hrow hne

/--
A map that holds the given entries in any order, with entries under keys that are
not in `known` anywhere among them.
-/
def Extends (key? : K → Option κ) (known : List κ)
    (entries carrier : List (K × V)) : Prop :=
  ∃ extra, (∀ entry ∈ extra, ∀ key ∈ known, key? entry.1 ≠ some key) ∧
    carrier.Perm (entries ++ extra)

theorem readFields_extends {key? : K → Option κ} {fields : List (Field κ V S)}
    (hseparate : Separate fields) {entries carrier : List (K × V)}
    (hdistinct : DistinctKeys key? entries)
    (hextends : Extends key? (fields.map Field.key) entries carrier) (start : S) :
    readFields key? fields start carrier =
      readFields key? fields start entries := by
  obtain ⟨extra, hextra, hperm⟩ := hextends
  refine foldKeyed_carries hseparate.independent hdistinct ⟨extra, ?_, hperm⟩ start
  intro entry hmem key hkey value state
  refine storeField_of_not_mem (fun hknown => ?_) value state
  exact hextra entry hmem key hknown hkey

/-- What every row keeps for the values that are there holds of the record read. -/
theorem readFields_invariant {key? : K → Option κ} {fields : List (Field κ V S)} {P : S → Prop}
    {entries : List (K × V)}
    (hrow : ∀ field ∈ fields, ∀ entry ∈ entries, ∀ state, P state →
      P (field.store entry.2 state)) {start : S} (hstart : P start) :
    P (readFields key? fields start entries) := by
  induction entries generalizing start with
  | nil => exact hstart
  | cons entry entries ih =>
      rw [readFields_cons]
      refine ih (fun field hfield later hlater => hrow field hfield later (.tail _ hlater)) ?_
      cases key? entry.1 with
      | none => exact hstart
      | some key =>
          simp only [storeField]
          cases hfound : fields.find? fun field => field.key = key with
          | none => exact hstart
          | some field =>
              exact hrow field (List.mem_of_find?_eq_some hfound) entry (.head _) start hstart

/-! ## Two readers of the same map -/

section Simulates

variable {S' : Type} {R : S → S' → Prop}

/-- Whatever a key carries, two records that are related stay so. -/
def Simulates (R : S → S' → Prop) (fields : List (Field κ V S))
    (fields' : List (Field κ V S')) : Prop :=
  ∀ key value state state', R state state' →
    R (storeField fields key value state) (storeField fields' key value state')

namespace Simulates

variable {fields : List (Field κ V S)} {fields' : List (Field κ V S')}

theorem nil : Simulates R ([] : List (Field κ V S)) [] :=
  fun _ _ _ _ h => h

theorem cons {field : Field κ V S} {field' : Field κ V S'} (hkey : field.key = field'.key)
    (hrow : ∀ value state state', R state state' →
      R (field.store value state) (field'.store value state'))
    (h : Simulates R fields fields') : Simulates R (field :: fields) (field' :: fields') := by
  intro key value state state' hstate
  rw [storeField_cons, storeField_cons, ← hkey]
  by_cases hhere : field.key = key
  · rw [if_pos hhere, if_pos hhere]
    exact hrow value state state' hstate
  · rw [if_neg hhere, if_neg hhere]
    exact h key value state state' hstate

/-- A row that only one reader has, and whose content the other never asks for. -/
theorem skip {field : Field κ V S} (hunknown : field.key ∉ fields'.map Field.key)
    (hrow : ∀ value state state', R state state' → R (field.store value state) state')
    (h : Simulates R fields fields') : Simulates R (field :: fields) fields' := by
  intro key value state state' hstate
  rw [storeField_cons]
  by_cases hhere : field.key = key
  · subst hhere
    rw [if_pos rfl, storeField_of_not_mem hunknown]
    exact hrow value state state' hstate
  · rw [if_neg hhere]
    exact h key value state state' hstate

theorem readFields (key? : K → Option κ) (h : Simulates R fields fields') {start : S}
    {start' : S'} (hstart : R start start') (entries : List (K × V)) :
    R (readFields key? fields start entries) (readFields key? fields' start' entries) := by
  induction entries generalizing start start' with
  | nil => exact hstart
  | cons entry entries ih =>
      rw [readFields_cons, readFields_cons]
      cases key? entry.1 with
      | none => exact ih hstart
      | some key => exact ih (h key entry.2 start start' hstart)

end Simulates

end Simulates

end Table

end OpenRD.Foundation
