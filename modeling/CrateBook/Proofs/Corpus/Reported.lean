import CrateBook.Proofs.Corpus.Saved
import CrateBook.Proofs.Json.Numbers

/-!
# Reports are no sidecars

A report is read back from its text, and it has none of the members of a sidecar. So a report that
stands where a sidecar is looked for cannot be loaded (`load_report`).
-/

namespace CrateBook.Corpus

open Json
open Json.Reader (Spells SpellsMember spells_int spells_zero)

variable {disk : Disk} {p : Path}

namespace Report

theorem allTextual_failures (os : List Omission) : AllTextual (os.map omissionJson) := by
  induction os with
  | nil => trivial
  | cons o os ih => exact ⟨⟨by simp, trivial, trivial, trivial, trivial⟩, ih⟩

/-- What a report says of its build, without the pages left out. -/
abbrev headJson (r : Report) : Json :=
  .obj [("library", .str r.library), ("timestamp", .decimal "0.0"),
    ("duration", .decimal "0.0"), ("config_hash", .str r.digest)]

/-- The two counts of a report. -/
abbrev statsJson (r : Report) : Json :=
  .obj [("converted", .int r.converted.length), ("failed", .int r.failures.length)]

theorem spells_obj (depth : Nat) {ms : List (String × Json)}
    (h : List.Forall₂ SpellsMember (prettyMembers (depth + 1) ms) ms)
    (hms : (ms.map (·.1)).Nodup) : Spells (prettyAt depth (.obj ms)) (.obj ms) :=
  Reader.reads_obj h hms

theorem spells_prettyAt_toJson (r : Report) : Spells (prettyAt 0 r.toJson) r.toJson := by
  have hmeta : Spells (prettyAt 1 r.headJson) r.headJson := by
    refine spells_obj 1 ?_ (by simp)
    exact .cons ⟨_, rfl, fun _ => .str _⟩ <| .cons ⟨_, rfl, spells_zero⟩ <|
      .cons ⟨_, rfl, spells_zero⟩ <| .cons ⟨_, rfl, fun _ => .str _⟩ .nil
  have hstats : Spells (prettyAt 1 r.statsJson) r.statsJson := by
    refine spells_obj 1 ?_ (by simp)
    exact .cons ⟨_, rfl, spells_int _⟩ <| .cons ⟨_, rfl, spells_int _⟩ .nil
  have hfailures : Spells (prettyAt 1 (.arr (r.failures.map omissionJson)))
      (.arr (r.failures.map omissionJson)) :=
    Reader.spells_prettyAt 1 (.arr (r.failures.map omissionJson)) (allTextual_failures r.failures)
  refine spells_obj 0 ?_ (by simp)
  exact .cons ⟨_, rfl, hmeta⟩ <| .cons ⟨_, rfl, hstats⟩ <| .cons ⟨_, rfl, hfailures⟩ .nil

theorem return_not_mem_obj (depth : Nat) {ms : List (String × Json)}
    (h : ∀ t ∈ prettyMembers (depth + 1) ms, '\r' ∉ t.toList) :
    '\r' ∉ (prettyAt depth (.obj ms)).toList :=
  return_not_mem_stacked (by simp) (by simp) h

theorem return_not_mem_text (r : Report) : '\r' ∉ r.text.toList := by
  have hmeta : '\r' ∉ (prettyAt 1 r.headJson).toList := by
    refine return_not_mem_obj 1 ?_
    simp [prettyMembers, prettyAt, return_not_mem_quoted]
  have hcount (n : Nat) : '\r' ∉ (n : Int).repr.toList := return_not_mem_toString n
  have hstats : '\r' ∉ (prettyAt 1 r.statsJson).toList := by
    refine return_not_mem_obj 1 ?_
    simp only [prettyMembers, prettyAt, List.mem_cons, List.not_mem_nil, or_false,
      forall_eq_or_imp, forall_eq, String.toList_append, List.mem_append, not_or]
    exact ⟨⟨⟨return_not_mem_quoted _, by simp⟩, hcount _⟩,
      ⟨⟨return_not_mem_quoted _, by simp⟩, hcount _⟩⟩
  have hfailures : '\r' ∉ (prettyAt 1 (.arr (r.failures.map omissionJson))).toList :=
    return_not_mem_prettyAt 1 (.arr (r.failures.map omissionJson)) (allTextual_failures r.failures)
  have hreport : '\r' ∉ (prettyAt 0 r.toJson).toList := by
    refine return_not_mem_obj 0 ?_
    simp only [prettyMembers, List.mem_cons, List.not_mem_nil, or_false,
      forall_eq_or_imp, forall_eq, String.toList_append, List.mem_append, not_or]
    exact ⟨⟨⟨return_not_mem_quoted _, by simp⟩, hmeta⟩,
      ⟨⟨return_not_mem_quoted _, by simp⟩, hstats⟩,
      ⟨⟨return_not_mem_quoted _, by simp⟩, hfailures⟩⟩
  rw [text, pretty, String.toList_append, List.mem_append, not_or]
  exact ⟨hreport, by simp⟩

/-- A report is not loaded as a sidecar. -/
theorem load_report {r : Report} (h : disk.find p = .ok (.file (Text.Utf8.encode r.text)))
    (s : Sidecar) : Sidecar.load disk p ≠ .ok s := by
  have hread := Disk.read_of_find h (return_not_mem_text r)
  have htext : Sidecar.ofText r.text = .error (.missingKey "declared_name") := by
    rw [Sidecar.ofText, text, read?_of_spells (spells_prettyAt_toJson r)]
    rfl
  intro hload
  rw [Sidecar.load, hread] at hload
  simp only [bind, Except.bind, htext] at hload
  cases hload

end Report

end CrateBook.Corpus
