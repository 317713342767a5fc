import Mathlib.Data.List.Perm.Basic

/-!
# Reading a map by folding over its entries

A reader goes through the entries of a map in wire order, skips the keys it does
not know, and lets every known key update its accumulator.  When different keys
update different parts of the accumulator, neither the order of the entries nor
entries with unknown keys matter.
-/

namespace OpenRD.Foundation

variable {K V κ S : Type}

/-- Folds over the entries whose key `key?` recognizes. -/
def foldKeyed (key? : K → Option κ) (update : κ → V → S → S) (start : S)
    (entries : List (K × V)) : S :=
  entries.foldl (fun state entry =>
    match key? entry.1 with
    | none => state
    | some key => update key entry.2 state) start

section Laws

variable {key? : K → Option κ} {update : κ → V → S → S}

@[simp] theorem foldKeyed_nil (start : S) :
    foldKeyed key? update start [] = start := rfl

@[simp] theorem foldKeyed_cons (start : S) (entry : K × V)
    (entries : List (K × V)) :
    foldKeyed key? update start (entry :: entries) =
      foldKeyed key? update
        (match key? entry.1 with
          | none => start
          | some key => update key entry.2 start) entries := rfl

theorem foldKeyed_append (start : S) (first second : List (K × V)) :
    foldKeyed key? update start (first ++ second) =
      foldKeyed key? update (foldKeyed key? update start first) second := by
  simp [foldKeyed]

def Unknown (key? : K → Option κ) (update : κ → V → S → S) (k : K) : Prop :=
  ∀ key, key? k = some key → ∀ value state, update key value state = state

theorem foldKeyed_unknown {entries : List (K × V)}
    (h : ∀ entry ∈ entries, Unknown key? update entry.1) (start : S) :
    foldKeyed key? update start entries = start := by
  induction entries generalizing start with
  | nil => rfl
  | cons entry entries ih =>
      have htail := ih fun e he => h e (List.mem_cons_of_mem _ he)
      have hhead := h entry List.mem_cons_self
      rw [foldKeyed_cons]
      cases hkey : key? entry.1 with
      | none => exact htail start
      | some key => simp only [hhead key hkey, htail]

def Independent (update : κ → V → S → S) : Prop :=
  ∀ key key', key ≠ key' → ∀ value value' state,
    update key value (update key' value' state) =
      update key' value' (update key value state)

def DistinctKeys (key? : K → Option κ) (entries : List (K × V)) : Prop :=
  (entries.filterMap fun entry => key? entry.1).Nodup

/--
A map that carries the given entries in any order, among entries with keys the
reader does not know.
-/
def Carries (key? : K → Option κ) (update : κ → V → S → S)
    (entries carrier : List (K × V)) : Prop :=
  ∃ extra, (∀ entry ∈ extra, Unknown key? update entry.1) ∧
    carrier.Perm (entries ++ extra)

theorem DistinctKeys.sublist {first second : List (K × V)}
    (h : DistinctKeys key? second) (hsub : first.Sublist second) :
    DistinctKeys key? first :=
  List.Nodup.sublist (hsub.filterMap _) h

theorem foldKeyed_perm (hindependent : Independent update)
    {first second : List (K × V)} (hdistinct : DistinctKeys key? first)
    (hperm : first.Perm second) (start : S) :
    foldKeyed key? update start first = foldKeyed key? update start second := by
  induction hperm generalizing start with
  | nil => rfl
  | cons entry hperm ih =>
      simp only [foldKeyed_cons, ih (hdistinct.sublist (List.sublist_cons_self _ _))]
  | swap first second entries =>
      simp only [foldKeyed_cons]
      cases hfirst : key? first.1 <;> cases hsecond : key? second.1 <;> try rfl
      next key key' =>
        have hne : key ≠ key' := by
          rintro rfl
          simp [DistinctKeys, hfirst, hsecond] at hdistinct
        simp only [hindependent key key' hne]
  | trans hperm hperm' ih ih' =>
      refine (ih hdistinct start).trans (ih' ?_ start)
      exact (hperm.filterMap _).nodup_iff.mp hdistinct

open Classical in
theorem foldKeyed_filter_known (start : S) (entries : List (K × V)) :
    foldKeyed key? update start entries =
      foldKeyed key? update start
        (entries.filter fun entry => ¬ Unknown key? update entry.1) := by
  induction entries generalizing start with
  | nil => rfl
  | cons entry entries ih =>
      by_cases hunknown : Unknown key? update entry.1
      · have hskip : foldKeyed key? update start [entry] = start :=
          foldKeyed_unknown (by simp [hunknown]) start
        rw [List.filter_cons_of_neg (by simpa using hunknown), ← ih,
          ← List.singleton_append, foldKeyed_append, hskip]
      · rw [List.filter_cons_of_pos (by simpa using hunknown), foldKeyed_cons,
          foldKeyed_cons, ih]

theorem foldKeyed_carries (hindependent : Independent update)
    {entries carrier : List (K × V)}
    (hdistinct : DistinctKeys key? entries)
    (hcarries : Carries key? update entries carrier) (start : S) :
    foldKeyed key? update start carrier =
      foldKeyed key? update start entries := by
  classical
  obtain ⟨extra, hunknown, hperm⟩ := hcarries
  have hextra : extra.filter (fun entry => ¬ Unknown key? update entry.1) = [] := by
    simpa using fun k v hmem => hunknown (k, v) hmem
  have hknown := hperm.filter fun entry => ¬ Unknown key? update entry.1
  rw [List.filter_append, hextra, List.append_nil] at hknown
  rw [foldKeyed_filter_known, foldKeyed_filter_known start entries]
  exact (foldKeyed_perm hindependent
    (hdistinct.sublist List.filter_sublist) hknown.symm start).symm

end Laws

end OpenRD.Foundation
