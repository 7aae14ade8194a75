import CrateBook.Proofs.Browse.Convergence
import CrateBook.Proofs.Build.Stopping
import CrateBook.Proofs.Path.Inside

/-!
# Where builds write

A build from a dump writes into its directory only, whatever its items are called. A build from
pages follows the links of a listing: a page is written below the directory just when its path leads
there from every directory, and a path with parent references or a root can lead elsewhere
(`written_places`).
-/

namespace CrateBook.Build

open Corpus (Built Names Reaches Report)
open CrateBook.Path (IsBelow IsPlain LeadsBelow)

variable {s : Source} {d d' : Disk} {library : LibraryName} {out : Path} {config : Json} {b : Built}
  {r : List String} {sidecar report page : String} {result : Except Failure Report}

/-- The place is that of a plain name in the directory. -/
def IsDirectlyIn (out : Path) (place : List String) : Prop :=
  ∃ name, IsPlain name ∧ place = out.place ++ [name]

theorem isDirectlyIn_child (hname : IsPlain page) (out : Path) :
    IsDirectlyIn out (out.child page).place :=
  ⟨page, hname, Path.place_child_name hname⟩

theorem IsDirectlyIn.isBelow (h : IsDirectlyIn out r) : IsBelow out r := by
  obtain ⟨name, -, rfl⟩ := h
  exact ⟨[name], by simp, rfl⟩

/-- What changes when a build ends is in the directory itself or a page that the source gives. -/
theorem Source.Ends.changed (hnames : Names config sidecar report) (hsidecar : IsPlain sidecar)
    (hreport : IsPlain report) (h : s.Ends library out config d result d')
    (hne : d'.file? r ≠ d.file? r) :
    IsDirectlyIn out r ∨ ∃ page, s.Yields d page ∧ (out.child page).place = r := by
  have hreached : ∃ b done o, s.Decides d library config b ∧
      Reaches d (b.changes library out s.format config) done o d' := by
    cases h with
    | undecided _ => exact absurd rfl hne
    | saved hb hreach => exact ⟨_, _, _, hb, hreach⟩
    | stopped hb hreach => exact ⟨_, _, _, hb, hreach⟩
  obtain ⟨b, done, o, hb, hreach⟩ := hreached
  obtain ⟨c, hc, htouches⟩ := hreach.exists_touches hne
  rcases Corpus.mem_changes hnames hc with ⟨name, t, hname, rfl⟩ | rfl | ⟨_, rfl⟩
  · obtain rfl : (out.child name).place = r := htouches
    rcases hname with hpage | rfl | rfl
    · rcases hb.mem_files hpage with hyields | rfl | rfl
      · exact .inr ⟨name, hyields, rfl⟩
      · exact .inl (isDirectlyIn_child (by decide) out)
      · exact .inl (isDirectlyIn_child (by decide) out)
    · exact .inl (isDirectlyIn_child hsidecar out)
    · exact .inl (isDirectlyIn_child hreport out)
  · obtain rfl : (out.child report).place = r := htouches
    exact .inl (isDirectlyIn_child hreport out)
  · exact htouches.elim

/-- **Where builds write.** A path leads below every directory just when following its names never
climbs out. Wherever a build ends, every file that is not as it was is below the directory, or it is
the page of a listed fragment whose path leads out of it; and a build from a dump changes only files
of the directory itself. -/
theorem written_places (hnames : Names config sidecar report) (hsidecar : IsPlain sidecar)
    (hreport : IsPlain report) :
    (∀ page, LeadsBelow page ↔ ∀ out, IsBelow out (out.child page).place) ∧
    ∀ (s : Source) (library : LibraryName) (out : Path),
      (∀ w : Workspace, s.Ends library out config w.disk ((s.build library out config).run w).1
        ((s.build library out config).run w).2.disk) ∧
      ∀ d result d', s.Ends library out config d result d' → ∀ r, d'.file? r ≠ d.file? r →
        (IsBelow out r ∨
          ∃ page, s.Yields d page ∧ ¬LeadsBelow page ∧ (out.child page).place = r) ∧
        ∀ path, s = .dump path → IsDirectlyIn out r := by
  refine ⟨fun page => Path.leadsBelow_iff, fun s library out => ⟨s.ends_run library out config,
    fun d result d' hends r hne => ⟨?_, ?_⟩⟩⟩
  · rcases hends.changed hnames hsidecar hreport hne with hin | ⟨page, hyields, hplace⟩
    · exact .inl hin.isBelow
    · by_cases hbelow : LeadsBelow page
      · exact .inl (hplace ▸ Path.leadsBelow_iff.1 hbelow out)
      · exact .inr ⟨page, hyields, hbelow, hplace⟩
  · rintro path rfl
    rcases hends.changed hnames hsidecar hreport hne with hin | ⟨page, ⟨itemPath, rfl⟩, rfl⟩
    · exact hin
    · exact isDirectlyIn_child (isPlain_pageName itemPath) out

/-! ## A page beside the directory -/

section

open Browse.SharedPage

/-- The build of the second library writes into the directory of the first one. -/
theorem run_second_library : ∃ r w', (buildFromPages ⟨"libb"⟩ docs (root.child "libb")
      (settings "metadata.json")).run workspace = (.ok r, w') ∧
    w'.disk.file? ["target", "docmd", "liba", "meta.md"] = some (Text.Utf8.encode "`A`") := by
  obtain ⟨built, ns, all, overview, record, hfrom, hchanges⟩ :=
    Browse.SharedPage.run_fromPages (d := disk) ⟨rfl, rfl, rfl⟩ "metadata.json" ⟨"libb"⟩
  rw [isDependency_libb.canonical] at hchanges
  have hbuild := run_buildFromPages (w := workspace) (root.child "libb") hfrom
  rw [Built.applied, show workspace.disk = disk from rfl, hchanges] at hbuild
  refine ⟨_, _, hbuild.trans rfl, ?_⟩
  rw [saved, Built.applied, show workspace.disk = disk from rfl, hchanges]
  rfl

theorem not_isBelow_second_library :
    ¬IsBelow (root.child "libb") ["target", "docmd", "liba", "meta.md"] := by
  rintro ⟨names, -, hplace⟩
  have hroot : (root.child "libb").place = ["target", "docmd", "libb"] := by decide
  rw [hroot] at hplace
  simp at hplace

/-- In the build of the second library, the page beside its directory is one whose path leads
out. -/
theorem written_places_second_library : ∃ page,
    Source.Yields workspace.disk (.pages docs) page ∧ ¬LeadsBelow page ∧
      ((root.child "libb").child page).place = ["target", "docmd", "liba", "meta.md"] := by
  obtain ⟨r, w', hrun, hpage⟩ := run_second_library
  have hbeside := Corpus.besidePages_standard
  obtain ⟨-, hplaces⟩ := written_places (named "metadata.json")
    hbeside.sidecar_plain hbeside.report_plain
  obtain ⟨hends, hchanged⟩ := hplaces (.pages docs) ⟨"libb"⟩ (root.child "libb")
  have hend := hends workspace
  have hsource :
      Source.build ⟨"libb"⟩ (root.child "libb") (settings "metadata.json") (.pages docs) =
      buildFromPages ⟨"libb"⟩ docs (root.child "libb") (settings "metadata.json") := rfl
  rw [hsource, hrun] at hend
  have hnew : w'.disk.file? ["target", "docmd", "liba", "meta.md"] ≠
      workspace.disk.file? ["target", "docmd", "liba", "meta.md"] := by
    rw [hpage]
    exact fun h => by cases h
  rcases (hchanged _ _ _ hend _ hnew).1 with hbelow | hout
  · exact absurd hbelow not_isBelow_second_library
  · exact hout

/-- A listed page is written outside the directory of its library. -/
theorem page_written_outside :
    Names (settings "metadata.json") "metadata.json" "build-report.json" ∧
    IsPlain "metadata.json" ∧ IsPlain "build-report.json" ∧
    ∃ r w', (buildFromPages ⟨"libb"⟩ docs (root.child "libb") (settings "metadata.json")).run
      workspace = (.ok r, w') ∧
    ∃ place, workspace.disk.file? place = none ∧
      w'.disk.file? place = some (Text.Utf8.encode "`A`") ∧ ¬IsBelow (root.child "libb") place := by
  obtain ⟨r, w', hrun, hpage⟩ := run_second_library
  have hbeside := Corpus.besidePages_standard
  exact ⟨named "metadata.json", hbeside.sidecar_plain, hbeside.report_plain, r, w', hrun, _, rfl,
    hpage, not_isBelow_second_library⟩

end

end CrateBook.Build
