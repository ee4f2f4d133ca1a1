import Kuber.Context.Indexer
import Kuber.Library.Framing

/-!
# What the content hash determines

The hash is fed every path, a zero byte and the content of the file.  Contents
may hold zero bytes and paths, so a file can be moved into the content of the
one before it, and the bytes stay the same.
-/

namespace Kuber.Context

open Kuber.Library Kuber.Rules

theorem encode_injective : Function.Injective encode := by
  intro left right same
  exact String.toByteArray_inj.mp (ByteArray.ext (Array.toList_inj.mp same))

/-- What relative paths are compared by. -/
def relativeKey (relative : List Part) : List String :=
  relative.map Subtype.val

/-- Paths as the indexer lists them: each below the root, without a zero byte,
and in ascending order. -/
structure Listing (paths : List (List Part)) : Prop where
  below : [] ∉ paths
  undelimited : ∀ path ∈ paths, 0 ∉ encode (posixText path)
  ascending : paths.Pairwise fun left right =>
    relativeKey left < relativeKey right

/-- The texts of listed paths. -/
def ListedNames (names : List (List UInt8)) : Prop :=
  ∃ paths, Listing paths ∧
    names = paths.map fun path => encode (posixText path)

theorem listedNames_admissible : AdmissibleNames 0 ListedNames where
  ofAppend := by
    intro names more ⟨paths, listing, texts⟩
    obtain ⟨front, back, rfl, rfl, -⟩ := List.map_eq_append_iff.mp texts.symm
    refine ⟨front, ?_, rfl⟩
    constructor
    · exact fun empty => listing.below (List.mem_append_left _ empty)
    · intro path member
      exact listing.undelimited path (List.mem_append_left _ member)
    · exact (List.pairwise_append.mp listing.ascending).1
  undelimited := by
    intro names ⟨paths, listing, texts⟩ name member
    rw [texts] at member
    obtain ⟨path, pathMember, rfl⟩ := List.mem_map.mp member
    exact listing.undelimited path pathMember

namespace Gathered

/-- The relative paths of the files. -/
def paths (gathered : Gathered) : List (List Part) :=
  gathered.files.map LoadedFile.relative

/-- The files as pairs of a relative path and a content. -/
def contents (gathered : Gathered) : List (List Part × List UInt8) :=
  gathered.files.map fun file => (file.relative, file.content)

/-- The files as they are written into the stream. -/
def records (gathered : Gathered) : List (List UInt8 × List UInt8) :=
  gathered.files.map fun file => (encode file.text, file.content)

theorem stream_eq_frame (gathered : Gathered) :
    gathered.stream = frame 0 gathered.records := by
  rw [stream, frame, records, List.flatMap_map]

theorem records_eq_map_contents (gathered : Gathered) :
    gathered.records = gathered.contents.map fun entry =>
      (encode (posixText entry.1), entry.2) := by
  rw [records, contents, List.map_map]
  rfl

theorem contents_eq_iff {left right : Gathered} :
    left.records = right.records ↔ left.contents = right.contents := by
  rw [records_eq_map_contents, records_eq_map_contents]
  refine (List.map_injective_iff.mpr ?_).eq_iff
  intro ⟨path, content⟩ ⟨other, otherContent⟩ same
  obtain ⟨texts, contents⟩ := Prod.mk.inj same
  exact Prod.ext (posixText_injective (encode_injective texts)) contents

theorem records_names (gathered : Gathered) :
    gathered.records.map Prod.fst =
      gathered.paths.map fun path => encode (posixText path) := by
  rw [records, paths, List.map_map, List.map_map]
  rfl

theorem listedNames_records {gathered : Gathered}
    (listing : Listing gathered.paths) :
    ListedNames (gathered.records.map Prod.fst) :=
  ⟨gathered.paths, listing, gathered.records_names⟩

theorem exists_records (service : ServiceContext)
    {records : List (List UInt8 × List UInt8)}
    (names : ListedNames (records.map Prod.fst)) :
    ∃ gathered : Gathered, Listing gathered.paths ∧
      gathered.records = records := by
  obtain ⟨paths, listing, texts⟩ := names
  have build : ∃ files : List LoadedFile,
      files.map LoadedFile.relative = paths ∧
        files.map (fun file => (encode file.text, file.content)) = records := by
    clear listing
    induction paths generalizing records with
    | nil =>
        rw [List.map_nil, List.map_eq_nil_iff] at texts
        exact ⟨[], rfl, texts.symm⟩
    | cons path paths induction =>
        cases records with
        | nil => simp at texts
        | cons record records =>
            obtain ⟨name, content⟩ := record
            rw [List.map_cons, List.map_cons, List.cons.injEq] at texts
            obtain ⟨files, relatives, written⟩ := induction texts.2
            refine ⟨⟨⟨"/", path⟩, path, content⟩ :: files, ?_, ?_⟩
            · rw [List.map_cons, relatives]
            · rw [List.map_cons, written]
              exact congrArg (fun text => (text, content) :: records)
                texts.1.symm
  obtain ⟨files, relatives, written⟩ := build
  refine ⟨⟨service, files⟩, ?_, written⟩
  change Listing (files.map LoadedFile.relative)
  rw [relatives]
  exact listing

/-- No other listed files have the same stream. -/
def DeterminedByStream (left : Gathered) : Prop :=
  ∀ right : Gathered, Listing right.paths → left.stream = right.stream →
    left.contents = right.contents

/-- At most one file, in whose content no path that sorts after its own stands
before a zero byte. -/
def Uncuttable (gathered : Gathered) : Prop :=
  gathered.files = [] ∨ ∃ file, gathered.files = [file] ∧
    ∀ before inner after,
      file.content = before ++ encode (posixText inner) ++ 0 :: after →
        ¬ Listing [file.relative, inner]

theorem determinedByStream_iff_frame (left : Gathered) :
    left.DeterminedByStream ↔
      DeterminedByFrame 0 ListedNames left.records := by
  constructor
  · intro determined records names same
    obtain ⟨right, listing, rfl⟩ := exists_records left.service names
    rw [← stream_eq_frame, ← stream_eq_frame] at same
    exact contents_eq_iff.mpr (determined right listing same)
  · intro determined right listing same
    rw [stream_eq_frame, stream_eq_frame] at same
    exact contents_eq_iff.mp
      (determined right.records (listedNames_records listing) same)

/-- The stream determines the files exactly when they cannot be cut in another
place. -/
theorem stream_determines_files_iff (left : Gathered)
    (listing : Listing left.paths) :
    left.DeterminedByStream ↔ left.Uncuttable := by
  rw [determinedByStream_iff_frame, determinedByFrame_iff
    listedNames_admissible (listedNames_records listing)]
  have cut : ∀ file : LoadedFile, left.files = [file] →
      ((∀ before inner after,
          file.content = before ++ inner ++ 0 :: after →
            ¬ ListedNames [encode file.text, inner]) ↔
        ∀ before inner after,
          file.content = before ++ encode (posixText inner) ++ 0 :: after →
            ¬ Listing [file.relative, inner]) := by
    intro file single
    constructor
    · intro uncut before inner after split both
      exact uncut before (encode (posixText inner)) after split
        ⟨[file.relative, inner], both, rfl⟩
    · intro uncut before inner after split ⟨paths, both, texts⟩
      obtain ⟨first, others, rfl, firstText, rest⟩ :=
        List.map_eq_cons_iff.mp texts.symm
      obtain ⟨second, rfl, secondText⟩ := List.map_eq_singleton_iff.mp rest
      have same : file.relative = first :=
        posixText_injective (encode_injective firstText.symm)
      exact uncut before second after (secondText ▸ split) (same ▸ both)
  constructor
  · intro shape
    cases shape with
    | inl none => exact Or.inl (List.map_eq_nil_iff.mp none)
    | inr one =>
        obtain ⟨name, body, single, uncut⟩ := one
        obtain ⟨file, files, written⟩ := List.map_eq_singleton_iff.mp single
        cases written
        exact Or.inr ⟨file, files, (cut file files).mp uncut⟩
  · intro shape
    cases shape with
    | inl none => exact Or.inl (List.map_eq_nil_iff.mpr none)
    | inr one =>
        obtain ⟨file, files, uncut⟩ := one
        refine Or.inr ⟨encode file.text, file.content, ?_,
          (cut file files).mpr uncut⟩
        rw [records, files]
        rfl

end Gathered

/-- The checkout of a service, and files in it. -/
def filesOf (entries : List (Part × List UInt8)) : Gathered where
  service :=
    { serviceId := "payment"
      «namespace» := "kuber-sandbox"
      workloadKind := "Deployment"
      deploymentName := "payment"
      serviceAccount := "payment-sa"
      sourceRepository := ⟨"payment", "/srv/payment", none, none⟩
      importantPaths := ["."]
      verificationProfile := "payment"
      ownRepository := @rfl String "payment" }
  files := entries.map fun (name, content) =>
    ⟨⟨"/", partsOf "/srv/payment" ++ [name]⟩, [name], content⟩

def firstName : Part := ⟨"a", by decide⟩

def secondName : Part := ⟨"b", by decide⟩

/-- The second file moves into the content of the first. -/
theorem stream_does_not_determine_files :
    ¬ ∀ left right : Gathered, Listing left.paths → Listing right.paths →
      left.stream = right.stream → left.contents = right.contents := by
  intro determined
  have two : Listing (filesOf [(firstName, [120]), (secondName, [121])]).paths :=
    ⟨by decide, by decide, by decide⟩
  have one : Listing (filesOf [(firstName, [120, 98, 0, 121])]).paths :=
    ⟨by decide, by decide, by decide⟩
  have same := determined _ _ two one (by rfl)
  have lengths := congrArg List.length same
  exact absurd lengths (by decide)

/-- One file without a zero byte is determined. -/
theorem stream_determines_files_iff_text :
    (filesOf [(firstName, [120, 121])]).DeterminedByStream := by
  apply (Gathered.stream_determines_files_iff _
    ⟨by decide, by decide, by decide⟩).mpr
  refine Or.inr ⟨_, rfl, ?_⟩
  intro before inner after split
  have content : [120, 121] =
      before ++ encode (posixText inner) ++ 0 :: after := split
  have zero : (0 : UInt8) ∈ [120, 121] := by
    rw [content]
    simp
  exact absurd zero (by decide)

end Kuber.Context
