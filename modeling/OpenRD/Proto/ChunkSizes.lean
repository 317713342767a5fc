import Mathlib.Data.Set.Basic
import OpenRD.Proto.Intersection

/-!
# Chunk sizes both peers accept

A chunk size range stands for the sizes between its ends.  The negotiated range stands
for the sizes both peers accept; negotiation does not ask whether there are any.
-/

namespace OpenRD.Proto

open OpenRD.Foundation

/-- The sizes a receiver with this range tolerates. -/
def chunkSizes (range : UInt32 × UInt32) : Set UInt32 :=
  {size | range.1 ≤ size ∧ size ≤ range.2}

/-- `range` lies between the ends of `outer`. -/
def Within (outer range : UInt32 × UInt32) : Prop :=
  outer.1 ≤ range.1 ∧ range.2 ≤ outer.2

theorem chunkSizes_nonempty {range : UInt32 × UInt32} :
    (chunkSizes range).Nonempty ↔ range.1 ≤ range.2 := by
  constructor
  · rintro ⟨size, hlow, hhigh⟩
    exact UInt32.le_trans hlow hhigh
  · intro h
    exact ⟨range.1, UInt32.le_refl _, h⟩

namespace NegotiatedProfile

variable {client server : Capabilities} {p : NegotiatedProfile}

theorem fileChunkSizeRange_eq (h : Intersection client server p) :
    p.fileChunkSizeRange =
      (max client.fileChunkSizeRange.1 server.fileChunkSizeRange.1,
        min client.fileChunkSizeRange.2 server.fileChunkSizeRange.2) :=
  Prod.ext h.fileChunkSizeLow h.fileChunkSizeHigh

theorem chunkSizes_negotiated (h : Intersection client server p) :
    chunkSizes p.fileChunkSizeRange =
      chunkSizes client.fileChunkSizeRange ∩ chunkSizes server.fileChunkSizeRange := by
  ext size
  simp only [fileChunkSizeRange_eq h, chunkSizes, Set.mem_ofPred_eq, Set.mem_inter_iff,
    Std.max_le_iff, Std.le_min_iff]
  exact and_and_and_comm

theorem negotiated_within (h : Intersection client server p) :
    Within client.fileChunkSizeRange p.fileChunkSizeRange ∧
      Within server.fileChunkSizeRange p.fileChunkSizeRange := by
  rw [fileChunkSizeRange_eq h]
  exact ⟨⟨Std.left_le_max, Std.min_le_left⟩, ⟨Std.right_le_max, Std.min_le_right⟩⟩

/-- Of two ordered ranges, the common one is ordered unless they lie apart. -/
theorem negotiated_ordered (h : Intersection client server p)
    (hclient : client.fileChunkSizeRange.1 ≤ client.fileChunkSizeRange.2)
    (hserver : server.fileChunkSizeRange.1 ≤ server.fileChunkSizeRange.2) :
    p.fileChunkSizeRange.1 ≤ p.fileChunkSizeRange.2 ↔
      client.fileChunkSizeRange.1 ≤ server.fileChunkSizeRange.2 ∧
        server.fileChunkSizeRange.1 ≤ client.fileChunkSizeRange.2 := by
  rw [fileChunkSizeRange_eq h]
  simp only [Std.max_le_iff, Std.le_min_iff]
  exact ⟨fun h => ⟨h.2.1, h.1.2⟩, fun h => ⟨⟨hclient, h.2⟩, ⟨h.1, hserver⟩⟩⟩

/--
A negotiated range is ordered and inside both peers' ranges, and peers without a common
size do not negotiate a profile.
-/
def UsableChunkSizes (client server : Capabilities) : Prop :=
  (∀ p, negotiate client server = .ok p →
    p.fileChunkSizeRange.1 ≤ p.fileChunkSizeRange.2 ∧
      Within client.fileChunkSizeRange p.fileChunkSizeRange ∧
      Within server.fileChunkSizeRange p.fileChunkSizeRange) ∧
  (chunkSizes client.fileChunkSizeRange ∩ chunkSizes server.fileChunkSizeRange = ∅ →
    ∃ error, negotiate client server = .error error)

theorem usableChunkSizes_of_ordered
    (h : ∀ p, negotiate client server = .ok p →
      p.fileChunkSizeRange.1 ≤ p.fileChunkSizeRange.2) : UsableChunkSizes client server := by
  refine ⟨fun p hok => ⟨h p hok, negotiated_within (intersection_of_ok hok)⟩, ?_⟩
  intro hnone
  cases hresult : negotiate client server with
  | error error => exact ⟨error, rfl⟩
  | ok p =>
      have hsizes := chunkSizes_nonempty.mpr (h p hresult)
      rw [chunkSizes_negotiated (intersection_of_ok hresult), hnone] at hsizes
      exact absurd hsizes Set.not_nonempty_empty

/-- Something is shared in each of the lists that must not come out empty. -/
def ListsOverlap (client server : Capabilities) : Prop :=
  Overlap client.protocolVersions server.protocolVersions ∧
    Overlap server.authMethods client.authMethods ∧
    Overlap client.displayCodecs server.displayCodecs

theorem negotiate_ok_iff :
    (∃ p, negotiate client server = .ok p) ↔ ListsOverlap client server :=
  (negotiate_intersection client server).2.2.2.1

/-- The chunk sizes are usable unless two ranges that lie apart get past the lists. -/
theorem usableChunkSizes_iff
    (hclient : client.fileChunkSizeRange.1 ≤ client.fileChunkSizeRange.2)
    (hserver : server.fileChunkSizeRange.1 ≤ server.fileChunkSizeRange.2) :
    UsableChunkSizes client server ↔
      (client.fileChunkSizeRange.1 ≤ server.fileChunkSizeRange.2 ∧
        server.fileChunkSizeRange.1 ≤ client.fileChunkSizeRange.2) ∨
      ¬ ListsOverlap client server := by
  constructor
  · intro h
    by_cases hlists : ListsOverlap client server
    · obtain ⟨p, hok⟩ := negotiate_ok_iff.mpr hlists
      exact .inl ((negotiated_ordered (intersection_of_ok hok) hclient hserver).mp
        (h.1 p hok).1)
    · exact .inr hlists
  · intro h
    refine usableChunkSizes_of_ordered fun p hok => ?_
    obtain hmeet | hlists := h
    · exact (negotiated_ordered (intersection_of_ok hok) hclient hserver).mpr hmeet
    · exact absurd (negotiate_ok_iff.mp ⟨p, hok⟩) hlists

/-- Ranges that meet in the sizes from 4096 to 65536. -/
theorem usableChunkSizes_overlapping :
    UsableChunkSizes { Capabilities.default with fileChunkSizeRange := (1024, 65536) }
      { Capabilities.default with fileChunkSizeRange := (4096, 131072) } :=
  (usableChunkSizes_iff (by decide) (by decide)).mpr (.inl (by decide))

/-- Ranges that lie apart are negotiated into one whose ends are crossed. -/
theorem crossed_chunkSizes :
    ¬ ∀ client server : Capabilities,
      client.fileChunkSizeRange.1 ≤ client.fileChunkSizeRange.2 →
      server.fileChunkSizeRange.1 ≤ server.fileChunkSizeRange.2 →
      UsableChunkSizes client server := by
  intro h
  have husable := h { Capabilities.default with fileChunkSizeRange := (1, 2) }
    { Capabilities.default with fileChunkSizeRange := (3, 4) } (by decide) (by decide)
  exact absurd (husable.1 _ rfl).1 (by decide)

end NegotiatedProfile

end OpenRD.Proto
