import Mathlib.Data.List.Forall2
import MediaHash.Digest.Hasher
import MediaHash.Proofs.Items.Grouping

/-!
# Digests do not depend on the reads

A file is read into one buffer, and a read may give fewer bytes than fit
there.  However the reads part the content, taking one after the other is
taking the whole content, since each counts with the bytes that it gave and
with none that the buffer held before.

The file at a path is therefore hashed as if its whole content were at hand,
and a hasher whose families all have digests gives one digest for each of
them, in their order.
-/

namespace MediaHash

open Digest

/-! ## Reads -/

namespace Digest.State

@[simp]
theorem update_nil (state : State) : state.update [] = state := by
  cases state with
  | md5 state => rfl
  | sha1 state => rfl
  | xxhash state => rfl
  | xxhash64 state => rfl
  | xxhash64be state => rfl

end Digest.State

namespace Hasher

@[simp]
theorem updateAll_nil (states : List (HashType × State)) :
    updateAll states [] = states := by
  simp [updateAll]

theorem updateAll_append (states : List (HashType × State))
    (first second : List UInt8) :
    updateAll states (first ++ second) =
      updateAll (updateAll states first) second := by
  simp [updateAll, State.update_append]

/-- Of a buffer, the front that a read has filled is what the read gave. -/
@[simp]
theorem take_fill (buffer bytes : List UInt8) :
    (fill buffer bytes).take bytes.length = bytes :=
  List.take_left

/-- One more read takes its own bytes into all states. -/
theorem takeReads_cons {bytes : List UInt8} (nonempty : bytes ≠ [])
    (buffer : List UInt8) (states : List (HashType × State))
    (later : List (List UInt8)) :
    takeReads buffer states (bytes :: later) =
      takeReads (fill buffer bytes) (updateAll states bytes) later := by
  rw [takeReads, if_neg nonempty]
  dsimp only
  rw [take_fill]

/--
The reads deliver a content: each of them gives bytes that fit the buffer,
at least one, until the last gives none.
-/
inductive Delivers : List UInt8 → List (List UInt8) → Prop where
  | ended : Delivers [] [[]]
  | piece (bytes rest : List UInt8) (later : List (List UInt8))
      (nonempty : bytes ≠ []) (fits : bytes.length ≤ chunkSize)
      (delivered : Delivers rest later) :
      Delivers (bytes ++ rest) (bytes :: later)

/-- Whatever the buffer held, reads bring the content that they deliver. -/
theorem takeReads_of_delivers {content : List UInt8}
    {reads : List (List UInt8)} (delivers : Delivers content reads)
    (buffer : List UInt8) (states : List (HashType × State)) :
    takeReads buffer states reads = updateAll states content := by
  induction delivers generalizing buffer states with
  | ended => rw [takeReads, if_pos rfl, updateAll_nil]
  | piece bytes rest later nonempty fits delivered inductionHypothesis =>
      rw [takeReads_cons nonempty, inductionHypothesis, updateAll_append]

/-- Digests of reads are those of the content that they deliver. -/
theorem hashReads_of_delivers (hasher : Hasher) {content : List UInt8}
    {reads : List (List UInt8)} (delivers : Delivers content reads) :
    hasher.hashReads reads = hasher.hashBytes content := by
  rw [hashReads, takeReads_of_delivers delivers, hashBytes]

theorem delivers_chunksFrom (fuel : Nat) (bytes : List UInt8)
    (enough : bytes.length ≤ fuel) :
    Delivers bytes (chunksFrom fuel bytes ++ [[]]) := by
  induction fuel generalizing bytes with
  | zero =>
      rw [List.eq_nil_of_length_eq_zero (Nat.le_zero.mp enough)]
      exact .ended
  | succ fuel inductionHypothesis =>
      cases bytes with
      | nil => exact .ended
      | cons first rest =>
          -- A chunk is never empty, so less fuel lasts for the rest.
          have shorter :
              ((first :: rest).drop chunkSize).length ≤ fuel := by
            rw [List.length_drop, chunkSize]
            rw [List.length_cons] at enough ⊢
            omega
          have delivered := Delivers.piece ((first :: rest).take chunkSize)
            _ _ (List.cons_ne_nil _ _) (List.length_take_le _ _)
            (inductionHypothesis _ shorter)
          rwa [List.take_append_drop] at delivered

/-- Reads that fill the buffer as long as they can deliver the content. -/
theorem delivers_fullReads (bytes : List UInt8) :
    Delivers bytes (fullReads bytes) :=
  delivers_chunksFrom bytes.length bytes (Nat.le_refl _)

/-! ## The digests of a file -/

/-- The digests of a path are those of the content of the file there. -/
theorem hashFile_eq_ok_iff {hasher : Hasher} {files : Files} {path : String}
    {digests : List (HashType × String)} :
    hasher.hashFile files path = .ok digests ↔
      ∃ content, files path = .ok (.file content) ∧
        hasher.hashBytes content = digests := by
  rw [hashFile, hashFileBy]
  split
  next fault found => simp [found]
  next found => simp [found]
  next fault found => simp [found]
  next content found =>
    simp [found, hasher.hashReads_of_delivers (delivers_fullReads content)]

/-- Families that all have digests give one each, in their order. -/
theorem forall₂_hashBytes {hasher : Hasher}
    (digestible : .null ∉ hasher.types) (bytes : List UInt8) :
    List.Forall₂ (fun family given =>
        given.1 = family ∧ family.digest bytes = .ok given.2)
      hasher.types (hasher.hashBytes bytes) := by
  rcases hasher with ⟨types, maxConcurrency⟩
  induction types with
  | nil => exact .nil
  | cons family rest inductionHypothesis =>
      rcases not_or.mp (mt List.mem_cons.mpr digestible) with
        ⟨notNull, restDigestible⟩
      have tail := inductionHypothesis restDigestible
      cases family with
      | null => exact absurd rfl notNull
      | md5 => exact .cons ⟨rfl, rfl⟩ tail
      | sha1 => exact .cons ⟨rfl, rfl⟩ tail
      | xxhash => exact .cons ⟨rfl, rfl⟩ tail
      | xxhash64 => exact .cons ⟨rfl, rfl⟩ tail
      | xxhash64be => exact .cons ⟨rfl, rfl⟩ tail

/-! ## Hashers of given families -/

theorem ofTypes_eq_ok_iff {types : List HashType} {hasher : Hasher} :
    ofTypes types = .ok hasher ↔
      .null ∉ types ∧ ⟨types.eraseDups, defaultConcurrency⟩ = hasher := by
  rw [ofTypes]
  split
  next refused => simp [refused]
  next accepted => simp [accepted]

theorem exists_fault_ofTypes_iff {types : List HashType} :
    (∃ fault, ofTypes types = .error fault) ↔ .null ∈ types := by
  rw [ofTypes]
  split
  next refused => simp [refused]
  next accepted => simp [accepted]

/--
A hasher is refused exactly if one of its families has no digest, and keeps
its families once each, as they were first named.  The digests of a file are
then those of its content, whatever reads deliver it, and there is exactly
one for each family, in their order: the one that the family alone gives.
-/
theorem hashFileBy_independent_of_reads (types : List HashType) :
    ((∃ fault, ofTypes types = .error fault) ↔ .null ∈ types) ∧
    ∀ hasher, ofTypes types = .ok hasher →
      FirstSeen types hasher.types ∧
      ∀ content : List UInt8,
        (∀ reads (files : Files) path, files path = .ok (.file content) →
          Delivers content (reads content) →
          hasher.hashFileBy reads files path =
            .ok (hasher.hashBytes content)) ∧
        Delivers content (fullReads content) ∧
        List.Forall₂ (fun family given =>
            given.1 = family ∧ family.digest content = .ok given.2)
          hasher.types (hasher.hashBytes content) := by
  refine ⟨exists_fault_ofTypes_iff, ?_⟩
  intro hasher made
  rcases ofTypes_eq_ok_iff.mp made with ⟨accepted, rfl⟩
  refine ⟨firstSeen_eraseDups types, fun content => ⟨?_,
    delivers_fullReads content, forall₂_hashBytes ?_ content⟩⟩
  · intro reads files path found delivers
    rw [hashFileBy, found]
    exact congrArg Except.ok (hashReads_of_delivers _ delivers)
  · exact mt List.mem_eraseDups.mp accepted

/-- A file read byte by byte, by a hasher one family of which came twice. -/
theorem hashFileBy_of_single_bytes :
    ofTypes [.xxhash64be, .md5, .xxhash64be] =
      .ok ⟨[.xxhash64be, .md5], 4⟩ ∧
    (FileTree.ofEntries [("clip", .file [0x61, 0x62, 0x63])]).find "clip" =
      .ok (.file [0x61, 0x62, 0x63]) ∧
    Delivers [0x61, 0x62, 0x63] [[0x61], [0x62], [0x63], []] ∧
    hashFileBy (fun content => content.map (fun byte => [byte]) ++ [[]])
        ⟨[.xxhash64be, .md5], 4⟩
        (FileTree.ofEntries [("clip", .file [0x61, 0x62, 0x63])]).find
        "clip" =
      .ok [(.xxhash64be, "44bc2cf5ad770999"),
        (.md5, "900150983cd24fb0d6963f7d28e17f72")] := by
  have made : ofTypes [.xxhash64be, .md5, .xxhash64be] =
      .ok ⟨[.xxhash64be, .md5], 4⟩ := rfl
  have found : (FileTree.ofEntries
      [("clip", .file [0x61, 0x62, 0x63])]).find "clip" =
        .ok (.file [0x61, 0x62, 0x63]) := rfl
  have delivers :
      Delivers [0x61, 0x62, 0x63] [[0x61], [0x62], [0x63], []] :=
    .piece [0x61] [0x62, 0x63] _ (by decide) (by decide)
      (.piece [0x62] [0x63] _ (by decide) (by decide)
        (.piece [0x63] [] _ (by decide) (by decide) .ended))
  have digests : hashBytes ⟨[.xxhash64be, .md5], 4⟩ [0x61, 0x62, 0x63] =
      [(.xxhash64be, "44bc2cf5ad770999"),
        (.md5, "900150983cd24fb0d6963f7d28e17f72")] := by
    decide +kernel
  have law := hashFileBy_independent_of_reads
    [.xxhash64be, .md5, .xxhash64be]
  rw [← digests]
  exact ⟨made, found, delivers,
    ((law.2 _ made).2 [0x61, 0x62, 0x63]).1 _ _ "clip" found delivers⟩

end Hasher

end MediaHash
