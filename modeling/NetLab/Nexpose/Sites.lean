import NetLab.Library.Execution
import NetLab.Library.OrderedMap
import NetLab.Library.Threads
import Mathlib.Algebra.GroupWithZero.Nat

/-!
# Sites and the assets of their scans

Each scan has a worker of its own, which looks for the asset of an address, takes a number for a new
one and stores it in separate steps, and writes the totals of its site field by field. Sites are
made and deleted in between; a deletion takes the site away first and its assets one by one.
-/

namespace NetLab.Nexpose

open NetLab.Library NetLab.Execution
open OrderedMap List Nat

/-! ## Records -/

inductive Severity where
  | critical
  | severe
  | moderate
deriving DecidableEq

/-- A finding of an assessment, as far as the totals read it. -/
structure Vulnerability where
  severity : Severity
  riskScore : Nat
deriving DecidableEq

/-- Numbers of findings. -/
structure Counts where
  critical : Nat := 0
  severe : Nat := 0
  moderate : Nat := 0
  total : Nat := 0
deriving DecidableEq

structure Asset where
  id : Nat
  ip : String
  site : Nat
  vulnerabilities : Counts
  riskScore : Nat
deriving DecidableEq

/-- What a site shows of its last scan. -/
structure Totals where
  assets : Nat := 0
  vulnerabilities : Counts := {}
  riskScore : Nat := 0
deriving DecidableEq

structure Site where
  name : String
  scanTemplate : String
  targets : List String
  totals : Totals := {}
deriving DecidableEq

/-- Numbers of the findings of one assessment. -/
def countsOf (vulnerabilities : List Vulnerability) : Counts where
  critical := vulnerabilities.countP (·.severity = .critical)
  severe := vulnerabilities.countP (·.severity = .severe)
  moderate := vulnerabilities.countP (·.severity = .moderate)
  total := vulnerabilities.length

/-- The sums of the numbers of some assets. -/
def sumCounts (found : List Asset) : Counts where
  critical := (found.map fun asset => asset.vulnerabilities.critical).sum
  severe := (found.map fun asset => asset.vulnerabilities.severe).sum
  moderate := (found.map fun asset => asset.vulnerabilities.moderate).sum
  total := (found.map fun asset => asset.vulnerabilities.total).sum

/-- The totals over the assets that a scan recorded. -/
def totalsOf (found : List Asset) : Totals where
  assets := found.length
  vulnerabilities := sumCounts found
  riskScore := (found.map Asset.riskScore).sum

/-- A call of `delete_site` that has taken the site away: the numbers of the assets that are still
to go, once they have been collected. -/
structure Deletion where
  site : Nat
  doomed : Option (List Nat) := none
deriving DecidableEq

/-- What the workers and the calls share. `ended` is no data of the engine: it tells what each scan
that has ended recorded for its site, the last one first. -/
structure Registry where
  sites : OrderedMap Nat Site := .empty
  assets : OrderedMap Nat Asset := .empty
  nextSite : Nat := 1
  nextAsset : Nat := 1
  deletion : Option Deletion := none
  ended : List (Nat × List Asset) := []

namespace Registry

def assetOf (registry : Registry) (site : Nat) (ip : String) : Option Asset :=
  registry.assets.values.find? fun asset => asset.ip = ip ∧ asset.site = site

def lastRecorded (registry : Registry) (site : Nat) : List Asset :=
  (registry.ended.lookup site).getD []

def writeTotals (registry : Registry) (site : Nat) (write : Totals → Totals) : Registry :=
  { registry with sites := registry.sites.modify site fun data =>
      { data with totals := write data.totals } }

def logEnd (registry : Registry) (site : Nat) (found : List Asset) : Registry :=
  { registry with ended := (site, found) :: registry.ended }

end Registry

/-! ## Calls -/

/-- `SCAN_TEMPLATES`. -/
def scanTemplates : List String := ["discovery", "full-audit-without-web-spider", "exhaustive"]

def defaultTemplate : String := "full-audit-without-web-spider"

structure SiteRequest where
  name : String
  scanTemplate : Option String := none
  targets : List String := []

/-- `create_site`. -/
def createSite (registry : Registry) (request : SiteRequest) : Except String Nat × Registry :=
  let template := request.scanTemplate.getD defaultTemplate
  if request.name = "" then (.error "name is required", registry)
  else if template ∉ scanTemplates then
    (.error ("unknown scan template: " ++ template ++ " (known: " ++
      ", ".intercalate scanTemplates ++ ")"), registry)
  else
    (.ok registry.nextSite, { registry with
        sites := registry.sites.insert registry.nextSite
          { name := request.name, scanTemplate := template, targets := request.targets }
        nextSite := registry.nextSite + 1 })

/-- The first step of `delete_site`. -/
def deleteSite (registry : Registry) (site : Nat) : Registry :=
  if site ∈ registry.sites.keys then
    { registry with sites := registry.sites.erase site, deletion := some { site } }
  else registry

/-- The next step of `delete_site`: the assets of the site are collected, and then removed. -/
def continueDeletion (registry : Registry) : Registry :=
  match registry.deletion with
  | none => registry
  | some deletion =>
    match deletion.doomed with
    | none =>
      let doomed := (registry.assets.values.filter fun asset =>
        asset.site = deletion.site).map Asset.id
      { registry with deletion := some { deletion with doomed := some doomed } }
    | some [] => { registry with deletion := none }
    | some (id :: rest) =>
      { registry with
        assets := registry.assets.erase id
        deletion := some { deletion with doomed := some rest } }

/-! ## Workers -/

/-- Where a worker is: at its next address, between the two halves of `_id`, about to store an
asset, about to end, or between two fields of the totals of its site. -/
inductive Phase where
  | next (left : List String)
  | numbering (ip : String) (left : List String)
  | counting (ip : String) (number : Nat) (left : List String)
  | storing (ip : String) (id : Nat) (left : List String)
  | summing
  | countsLeft
  | riskLeft
  | ended
deriving DecidableEq

/-- The worker of a scan, with the assets that it has recorded. -/
structure ScanWorker where
  site : Nat
  phase : Phase
  found : List Asset := []
deriving DecidableEq

def assess (site : Nat) (ip : String) (id : Nat) (vulnerabilities : List Vulnerability) : Asset where
  id := id
  ip := ip
  site := site
  vulnerabilities := countsOf vulnerabilities
  riskScore := (vulnerabilities.map Vulnerability.riskScore).sum

namespace ScanWorker

/-- The next step of a worker, when its assessment gives these findings. -/
def move (vulnerabilities : List Vulnerability) (registry : Registry) (scan : ScanWorker) :
    Registry × ScanWorker :=
  match scan.phase with
  | .next [] => (registry, { scan with phase := .summing })
  | .next (ip :: left) =>
    match registry.assetOf scan.site ip with
    | some existing => (registry, { scan with phase := .storing ip existing.id left })
    | none => (registry, { scan with phase := .numbering ip left })
  | .numbering ip left => (registry, { scan with phase := .counting ip registry.nextAsset left })
  | .counting ip number left =>
    ({ registry with nextAsset := number + 1 }, { scan with phase := .storing ip number left })
  | .storing ip id left =>
    let asset := assess scan.site ip id vulnerabilities
    ({ registry with assets := registry.assets.insert id asset },
      { scan with phase := .next left, found := scan.found ++ [asset] })
  | .summing =>
    if scan.site ∈ registry.sites.keys then
      (registry.writeTotals scan.site fun totals => { totals with assets := scan.found.length },
        { scan with phase := .countsLeft })
    else (registry.logEnd scan.site scan.found, { scan with phase := .ended })
  | .countsLeft =>
    (registry.writeTotals scan.site fun totals =>
        { totals with vulnerabilities := sumCounts scan.found },
      { scan with phase := .riskLeft })
  | .riskLeft =>
    ((registry.writeTotals scan.site fun totals =>
        { totals with riskScore := (scan.found.map Asset.riskScore).sum }).logEnd scan.site
          scan.found,
      { scan with phase := .ended })
  | .ended => (registry, scan)

/-- A worker that sees the flag of a stop before its next address. -/
def halt (registry : Registry) (scan : ScanWorker) : Registry × ScanWorker :=
  match scan.phase with
  | .next _ => (registry, { scan with phase := .summing })
  | _ => (registry, scan)

/-- The worker has written some but not all totals of its site. -/
def Writing (scan : ScanWorker) : Prop := scan.phase = .countsLeft ∨ scan.phase = .riskLeft

instance : DecidablePred Writing := fun _ => inferInstanceAs (Decidable (_ ∨ _))

/-- A worker whose assessment raises an exception. -/
def fail (registry : Registry) (scan : ScanWorker) : Registry × ScanWorker :=
  if scan.Writing then (registry, scan) else (registry, { scan with phase := .ended })

end ScanWorker

/-- The addresses of the devices that a scan of a site assesses. -/
def resolveTargets (site : Site) (addresses : List String) : List String :=
  addresses.filter fun ip => ip ≠ "" ∧ (site.targets = [] ∨ ip ∈ site.targets)

abbrev Scans := Threads Registry ScanWorker

/-- `start_scan`, when these are the addresses of all devices. -/
def startScan (scans : Scans) (site : Nat) (templateId : Option String) (addresses : List String) :
    Except String Unit × Scans :=
  match scans.shared.sites.lookup site with
  | none => (.error ("site " ++ toString site ++ " not found"), scans)
  | some data =>
    let template := if templateId.getD "" ≠ "" then templateId.getD "" else data.scanTemplate
    if template ∉ scanTemplates then
      (.error ("unknown scan template: " ++ template ++ " (known: " ++
        ", ".intercalate scanTemplates ++ ")"), scans)
    else (.ok (), scans.spawn { site, phase := .next (resolveTargets data addresses) })

/-- What happens next. Calls of `create_site` and `delete_site` are served one after the other. -/
inductive SiteEvent where
  | createSite (request : SiteRequest)
  | deleteSite (site : Nat)
  | continueDeletion
  | failDeletion
  | startScan (site : Nat) (templateId : Option String) (addresses : List String)
  | worker (index : Nat) (vulnerabilities : List Vulnerability)
  | halt (index : Nat)
  | fail (index : Nat)

def scansStep (scans : Scans) : SiteEvent → Scans
  | .createSite request =>
    if scans.shared.deletion = none then
      { scans with shared := (createSite scans.shared request).2 }
    else scans
  | .deleteSite site =>
    if scans.shared.deletion = none then
      { scans with shared := Nexpose.deleteSite scans.shared site }
    else scans
  | .continueDeletion => { scans with shared := Nexpose.continueDeletion scans.shared }
  | .failDeletion => { scans with shared := { scans.shared with deletion := none } }
  | .startScan site templateId addresses => (startScan scans site templateId addresses).2
  | .worker index vulnerabilities => scans.step (ScanWorker.move vulnerabilities) index
  | .halt index => scans.step ScanWorker.halt index
  | .fail index => scans.step ScanWorker.fail index

/-! ## Consistency -/

/-- Scan results fit their sites. -/
structure FitsSites (scans : Scans) : Prop where
  unique : ∀ asset ∈ scans.shared.assets.values, ∀ other ∈ scans.shared.assets.values,
    asset.site = other.site → asset.ip = other.ip → asset = other
  owned : ∀ asset ∈ scans.shared.assets.values, asset.site ∈ scans.shared.sites.keys ∨
    ∃ deletion, scans.shared.deletion = some deletion ∧ deletion.site = asset.site
  totals : (∀ scan ∈ scans.locals, scan.phase = .ended) →
    ∀ site data, scans.shared.sites.lookup site = some data →
      data.totals = totalsOf (scans.shared.lastRecorded site)

/-- An asset is stored for a site that is there and has no other asset with the address; the totals
of a site are written by one worker at a time; a deletion breaks off after the last asset only. -/
def OrderlyScan (scans : Scans) : SiteEvent → Prop
  | .worker index _ =>
    match scans.locals[index]? with
    | none => True
    | some scan =>
      match scan.phase with
      | .storing ip id _ => scan.site ∈ scans.shared.sites.keys ∧
          ∀ asset ∈ scans.shared.assets.values, asset.site = scan.site → asset.ip = ip →
            asset.id = id
      | .summing => ∀ other ∈ scans.locals, other.site = scan.site → ¬ other.Writing
      | _ => True
  | .failDeletion =>
    match scans.shared.deletion with
    | none => True
    | some deletion => ∀ asset ∈ scans.shared.assets.values, asset.site ≠ deletion.site
  | _ => True

instance decidableOrderlyScan (scans : Scans) :
    ∀ event : SiteEvent, Decidable (OrderlyScan scans event)
  | .worker index _ =>
    match found : scans.locals[index]? with
    | none => isTrue (by simp [OrderlyScan, found])
    | some scan =>
      match phase : scan.phase with
      | .storing ip id _ =>
        decidable_of_iff (scan.site ∈ scans.shared.sites.keys ∧
          ∀ asset ∈ scans.shared.assets.values, asset.site = scan.site → asset.ip = ip →
            asset.id = id) (by simp [OrderlyScan, found, phase])
      | .summing =>
        decidable_of_iff (∀ other ∈ scans.locals, other.site = scan.site → ¬ other.Writing)
          (by simp [OrderlyScan, found, phase])
      | .next _ => isTrue (by simp [OrderlyScan, found, phase])
      | .numbering _ _ => isTrue (by simp [OrderlyScan, found, phase])
      | .counting _ _ _ => isTrue (by simp [OrderlyScan, found, phase])
      | .countsLeft => isTrue (by simp [OrderlyScan, found, phase])
      | .riskLeft => isTrue (by simp [OrderlyScan, found, phase])
      | .ended => isTrue (by simp [OrderlyScan, found, phase])
  | .failDeletion =>
    match active : scans.shared.deletion with
    | none => isTrue (by simp [OrderlyScan, active])
    | some deletion =>
      decidable_of_iff (∀ asset ∈ scans.shared.assets.values, asset.site ≠ deletion.site)
        (by simp [OrderlyScan, active])
  | .createSite _ => isTrue trivial
  | .deleteSite _ => isTrue trivial
  | .continueDeletion => isTrue trivial
  | .startScan _ _ _ => isTrue trivial
  | .halt _ => isTrue trivial
  | .fail _ => isTrue trivial

/-! ## Assets -/

/-- Assets are stored under their numbers, one for each site and address, and those of a site that
is gone are still to be collected or removed. -/
structure AssetsPlaced (registry : Registry) : Prop where
  keyed : ∀ id asset, registry.assets.lookup id = some asset → asset.id = id
  unique : ∀ asset ∈ registry.assets.values, ∀ other ∈ registry.assets.values,
    asset.site = other.site → asset.ip = other.ip → asset = other
  placed : ∀ asset ∈ registry.assets.values, asset.site ∈ registry.sites.keys ∨
    ∃ deletion, registry.deletion = some deletion ∧ deletion.site = asset.site ∧
      ∀ ids, deletion.doomed = some ids → asset.id ∈ ids

namespace AssetsPlaced

variable {registry : Registry}

theorem grow (placed : AssetsPlaced registry) {next : Registry}
    (assets : next.assets = registry.assets) (deletion : next.deletion = registry.deletion)
    (sites : ∀ site ∈ registry.sites.keys, site ∈ next.sites.keys) : AssetsPlaced next := by
  refine ⟨?_, ?_, ?_⟩
  · rw [assets]
    exact placed.keyed
  · rw [assets]
    exact placed.unique
  · rw [assets, deletion]
    exact fun asset member => (placed.placed asset member).imp_left (sites _)

theorem store (placed : AssetsPlaced registry) {asset : Asset}
    (there : asset.site ∈ registry.sites.keys)
    (alone : ∀ other ∈ registry.assets.values, other.site = asset.site → other.ip = asset.ip →
      other.id = asset.id) :
    AssetsPlaced { registry with assets := registry.assets.insert asset.id asset } := by
  have old : ∀ {other}, other ∈ (registry.assets.insert asset.id asset).values →
      other ≠ asset → other ∈ registry.assets.values ∧ other.id ≠ asset.id := by
    intro other member different
    obtain ⟨key, found⟩ := mem_values_iff.mp member
    rw [lookup_insert] at found
    split at found
    · exact absurd (Option.some.inj found).symm different
    · rename_i elsewhere
      refine ⟨mem_values_iff.mpr ⟨key, found⟩, ?_⟩
      rwa [placed.keyed key other found]
  refine ⟨?_, ?_, ?_⟩
  · intro id other found
    rw [lookup_insert] at found
    split at found
    · rename_i same
      rw [← Option.some.inj found, same]
    · exact placed.keyed id other found
  · intro first member second member' sameSite sameIp
    by_cases new : first = asset <;> by_cases new' : second = asset
    · rw [new, new']
    · obtain ⟨there, other⟩ := old member' new'
      exact absurd (alone second there (by rw [← sameSite, new]) (by rw [← sameIp, new])) other
    · obtain ⟨there, other⟩ := old member new
      exact absurd (alone first there (by rw [sameSite, new']) (by rw [sameIp, new'])) other
    · exact placed.unique first (old member new).1 second (old member' new').1 sameSite sameIp
  · intro other member
    by_cases new : other = asset
    · exact .inl (new ▸ there)
    · exact placed.placed other (old member new).1

theorem createSite (placed : AssetsPlaced registry) (request : SiteRequest) :
    AssetsPlaced (createSite registry request).2 := by
  unfold Nexpose.createSite
  dsimp only
  split
  · exact placed
  · split
    · exact placed
    · exact placed.grow rfl rfl fun site member => mem_keys_insert.mpr (.inr member)

theorem deleteSite (placed : AssetsPlaced registry) (idle : registry.deletion = none) (site : Nat) :
    AssetsPlaced (deleteSite registry site) := by
  unfold Nexpose.deleteSite
  split
  · refine ⟨placed.keyed, placed.unique, fun asset member => ?_⟩
    have there : asset.site ∈ registry.sites.keys := by
      refine (placed.placed asset member).resolve_right ?_
      rintro ⟨deletion, active, -⟩
      cases idle.symm.trans active
    by_cases gone : asset.site = site
    · exact .inr ⟨{ site }, rfl, gone.symm, nofun⟩
    · refine .inl (mem_keys_iff.mpr ?_)
      obtain ⟨data, found⟩ := mem_keys_iff.mp there
      exact ⟨data, by rw [lookup_erase, if_neg gone, found]⟩
  · exact placed

theorem continueDeletion (placed : AssetsPlaced registry) :
    AssetsPlaced (continueDeletion registry) := by
  unfold Nexpose.continueDeletion
  cases active : registry.deletion with
  | none => exact placed
  | some deletion =>
    obtain ⟨site, doomed⟩ := deletion
    have located : ∀ asset ∈ registry.assets.values, asset.site ∈ registry.sites.keys ∨
        site = asset.site ∧ ∀ ids, doomed = some ids → asset.id ∈ ids := by
      intro asset member
      refine (placed.placed asset member).imp_right ?_
      rintro ⟨deletion, same, here, listed⟩
      obtain rfl := Option.some.inj (active.symm.trans same)
      exact ⟨here, listed⟩
    cases doomed with
    | none =>
      refine ⟨placed.keyed, placed.unique, fun asset member => ?_⟩
      refine (located asset member).imp_right ?_
      rintro ⟨here, -⟩
      refine ⟨_, rfl, here, fun ids collected => ?_⟩
      rw [← Option.some.inj collected]
      exact mem_map_of_mem (mem_filter.mpr ⟨member, by simp [here]⟩)
    | some ids =>
      cases ids with
      | nil =>
        refine ⟨placed.keyed, placed.unique, fun asset member => .inl ?_⟩
        refine (located asset member).resolve_right ?_
        rintro ⟨-, listed⟩
        exact absurd (listed [] rfl) not_mem_nil
      | cons id rest =>
        have kept : ∀ {asset}, asset ∈ (registry.assets.erase id).values →
            asset ∈ registry.assets.values ∧ asset.id ≠ id := by
          intro asset member
          obtain ⟨key, found⟩ := mem_values_iff.mp member
          rw [lookup_erase] at found
          split at found
          · cases found
          · rename_i other
            refine ⟨mem_values_iff.mpr ⟨key, found⟩, ?_⟩
            rwa [placed.keyed key asset found]
        refine ⟨?_, ?_, ?_⟩
        · intro key asset found
          rw [lookup_erase] at found
          split at found
          · cases found
          · exact placed.keyed key asset found
        · exact fun first member second member' =>
            placed.unique first (kept member).1 second (kept member').1
        · intro asset member
          obtain ⟨there, other⟩ := kept member
          refine (located asset there).imp_right ?_
          rintro ⟨here, listed⟩
          refine ⟨_, rfl, here, fun ids same => ?_⟩
          rw [← Option.some.inj same]
          exact (mem_cons.mp (listed _ rfl)).resolve_left other

theorem failDeletion (placed : AssetsPlaced registry)
    (empty : ∀ deletion, registry.deletion = some deletion →
      ∀ asset ∈ registry.assets.values, asset.site ≠ deletion.site) :
    AssetsPlaced { registry with deletion := none } := by
  refine ⟨placed.keyed, placed.unique, fun asset member => .inl ?_⟩
  refine (placed.placed asset member).resolve_right ?_
  rintro ⟨deletion, active, here, -⟩
  exact empty deletion active asset member here.symm

theorem move (placed : AssetsPlaced registry) (vulnerabilities : List Vulnerability)
    {scan : ScanWorker}
    (orderly : ∀ ip id left, scan.phase = .storing ip id left →
      scan.site ∈ registry.sites.keys ∧ ∀ asset ∈ registry.assets.values,
        asset.site = scan.site → asset.ip = ip → asset.id = id) :
    AssetsPlaced (scan.move vulnerabilities registry).1 := by
  have written : ∀ write, AssetsPlaced (registry.writeTotals scan.site write) := fun write =>
    placed.grow rfl rfl fun site member => by simpa [Registry.writeTotals] using member
  unfold ScanWorker.move
  split
  · exact placed
  · split <;> exact placed
  · exact placed
  · exact placed.grow rfl rfl fun _ member => member
  · rename_i ip id left phase
    obtain ⟨there, alone⟩ := orderly ip id left phase
    let asset := assess scan.site ip id vulnerabilities
    have stored : AssetsPlaced { registry with
        assets := registry.assets.insert asset.id asset } := placed.store there alone
    exact stored
  · split
    · dsimp only
      exact written _
    · exact placed.grow rfl rfl fun _ member => member
  · dsimp only
    exact written _
  · dsimp only
    refine (written fun totals =>
      { totals with riskScore := (scan.found.map Asset.riskScore).sum }).grow rfl rfl ?_
    exact fun _ member => member
  · exact placed

end AssetsPlaced

/-! ## Totals -/

def ScanWorker.Written (scan : ScanWorker) (totals : Totals) : Prop :=
  (scan.phase = .countsLeft → totals.assets = scan.found.length) ∧ (scan.phase = .riskLeft →
      totals.assets = scan.found.length ∧ totals.vulnerabilities = sumCounts scan.found)

/-- Each site shows the totals of its last scan, unless a worker is writing them. -/
structure TotalsKept (scans : Scans) : Prop where
  sites : ∀ site ∈ scans.shared.sites.keys, site < scans.shared.nextSite
  workers : ∀ scan ∈ scans.locals, scan.site < scans.shared.nextSite
  logged : ∀ entry ∈ scans.shared.ended, entry.1 < scans.shared.nextSite
  alone : ∀ (i j : Nat) (scan other : ScanWorker), scans.locals[i]? = some scan → scans.locals[j]? = some other →
    scan.Writing → other.Writing → scan.site = other.site → i = j
  written : ∀ scan ∈ scans.locals, ∀ data, scans.shared.sites.lookup scan.site = some data →
    scan.Written data.totals
  shown : ∀ site data, scans.shared.sites.lookup site = some data →
    (∃ scan ∈ scans.locals, scan.site = site ∧ scan.Writing) ∨
      data.totals = totalsOf (scans.shared.lastRecorded site)

namespace TotalsKept

variable {scans : Scans} {index : Nat} {scan next : ScanWorker} {registry : Registry}

theorem getElem?_set_cases {locals : List ScanWorker} {j : Nat} {other : ScanWorker}
    (found : (locals.set index next)[j]? = some other) :
    (j = index ∧ other = next) ∨ (j ≠ index ∧ locals[j]? = some other) := by
  by_cases here : j = index
  · subst here
    obtain ⟨inRange, same⟩ := List.getElem?_eq_some_iff.mp found
    exact .inl ⟨rfl, by simpa using same.symm⟩
  · rw [getElem?_set_ne (Ne.symm here)] at found
    exact .inr ⟨here, found⟩

theorem silent (kept : TotalsKept scans) (found : scans.locals[index]? = some scan)
    (same : next.site = scan.site) (quiet : ¬ scan.Writing) (quiet' : ¬ next.Writing)
    (sites : registry.sites = scans.shared.sites) (count : registry.nextSite = scans.shared.nextSite)
    (logged : ∀ entry ∈ registry.ended, entry.1 < registry.nextSite)
    (recorded : ∀ site ∈ registry.sites.keys,
      registry.lastRecorded site = scans.shared.lastRecorded site) :
    TotalsKept ⟨registry, scans.locals.set index next⟩ := by
  have inside : scan ∈ scans.locals := mem_of_getElem? found
  refine ⟨?_, ?_, logged, ?_, ?_, ?_⟩
  · rw [sites, count]
    exact kept.sites
  · intro other member
    rw [count]
    rcases mem_or_eq_of_mem_set member with old | rfl
    · exact kept.workers other old
    · rw [same]
      exact kept.workers scan inside
  · intro i j first second at_i at_j writing writing' sameSite
    rcases getElem?_set_cases at_i with ⟨-, rfl⟩ | ⟨-, at_i⟩
    · exact absurd writing quiet'
    · rcases getElem?_set_cases at_j with ⟨-, rfl⟩ | ⟨-, at_j⟩
      · exact absurd writing' quiet'
      · exact kept.alone i j first second at_i at_j writing writing' sameSite
  · intro other member data there
    rcases mem_or_eq_of_mem_set member with old | rfl
    · exact kept.written other old data (sites ▸ there)
    · exact ⟨fun phase => absurd (.inl phase) quiet', fun phase => absurd (.inr phase) quiet'⟩
  · intro site data there
    rw [recorded site (mem_keys_iff.mpr ⟨data, there⟩)]
    refine (kept.shown site data (sites ▸ there)).imp_left ?_
    rintro ⟨other, member, here, writing⟩
    obtain ⟨j, at_j⟩ := mem_iff_getElem?.mp member
    have different : index ≠ j := by
      rintro rfl
      obtain rfl := Option.some.inj (found.symm.trans at_j)
      exact quiet writing
    exact ⟨other, mem_of_getElem? ((getElem?_set_ne different).trans at_j), here, writing⟩

theorem write (kept : TotalsKept scans) (found : scans.locals[index]? = some scan)
    (same : next.site = scan.site)
    (clear : ∀ j other, scans.locals[j]? = some other → j ≠ index → other.site = scan.site →
      ¬ other.Writing)
    (keys : registry.sites.keys = scans.shared.sites.keys)
    (count : registry.nextSite = scans.shared.nextSite)
    (logged : ∀ entry ∈ registry.ended, entry.1 < registry.nextSite)
    (elsewhere : ∀ site ≠ scan.site, registry.sites.lookup site = scans.shared.sites.lookup site ∧
        registry.lastRecorded site = scans.shared.lastRecorded site)
    (here : ∀ data, registry.sites.lookup scan.site = some data → next.Written data.totals ∧
      (next.Writing ∨ data.totals = totalsOf (registry.lastRecorded scan.site))) :
    TotalsKept ⟨registry, scans.locals.set index next⟩ := by
  have inside : scan ∈ scans.locals := mem_of_getElem? found
  have inRange : index < scans.locals.length := (List.getElem?_eq_some_iff.mp found).1
  have now : next ∈ scans.locals.set index next :=
    mem_of_getElem? (getElem?_set_self inRange)
  refine ⟨?_, ?_, logged, ?_, ?_, ?_⟩
  · rw [keys, count]
    exact kept.sites
  · intro other member
    rw [count]
    rcases mem_or_eq_of_mem_set member with old | rfl
    · exact kept.workers other old
    · rw [same]
      exact kept.workers scan inside
  · intro i j first second at_i at_j writing writing' sameSite
    rcases getElem?_set_cases at_i with ⟨rfl, rfl⟩ | ⟨away, old⟩ <;>
      rcases getElem?_set_cases at_j with ⟨rfl, rfl⟩ | ⟨away', old'⟩
    · rfl
    · exact absurd writing' (clear j second old' away' (sameSite.symm.trans same))
    · exact absurd writing (clear i first old away (sameSite.trans same))
    · exact kept.alone i j first second old old' writing writing' sameSite
  · intro other member data there
    obtain ⟨j, at_j⟩ := mem_iff_getElem?.mp member
    rcases getElem?_set_cases at_j with ⟨-, rfl⟩ | ⟨away, at_j⟩
    · exact (here data (same ▸ there)).1
    · by_cases own : other.site = scan.site
      · have quiet := clear j other at_j away own
        exact ⟨fun phase => absurd (.inl phase) quiet, fun phase => absurd (.inr phase) quiet⟩
      · rw [(elsewhere other.site own).1] at there
        exact kept.written other (mem_of_getElem? at_j) data there
  · intro site data there
    by_cases own : site = scan.site
    · subst own
      exact (here data there).2.imp_left fun writing => ⟨next, now, same, writing⟩
    · rw [(elsewhere site own).2]
      rw [(elsewhere site own).1] at there
      refine (kept.shown site data there).imp_left ?_
      rintro ⟨other, member, at_site, writing⟩
      obtain ⟨j, at_j⟩ := mem_iff_getElem?.mp member
      have different : index ≠ j := by
        rintro rfl
        obtain rfl := Option.some.inj (found.symm.trans at_j)
        exact own at_site.symm
      exact ⟨other, mem_of_getElem? ((getElem?_set_ne different).trans at_j), at_site, writing⟩

theorem spawn (kept : TotalsKept scans) (there : next.site ∈ scans.shared.sites.keys)
    (quiet : ¬ next.Writing) : TotalsKept (scans.spawn next) := by
  have old : ∀ {j : Nat} {other : ScanWorker}, (scans.locals ++ [next])[j]? = some other →
      other.Writing → scans.locals[j]? = some other := by
    intro j other found writing
    rw [getElem?_append] at found
    split at found
    · exact found
    · obtain rfl := mem_singleton.mp (mem_of_getElem? found)
      exact absurd writing quiet
  refine ⟨kept.sites, ?_, kept.logged, ?_, ?_, ?_⟩
  · intro scan member
    rcases mem_append.mp member with known | new
    · exact kept.workers scan known
    · rw [mem_singleton.mp new]
      exact kept.sites _ there
  · exact fun i j first second at_i at_j writing writing' same =>
      kept.alone i j first second (old at_i writing) (old at_j writing') writing writing' same
  · intro scan member data found
    rcases mem_append.mp member with known | new
    · exact kept.written scan known data found
    · obtain rfl := mem_singleton.mp new
      exact ⟨fun phase => absurd (.inl phase) quiet, fun phase => absurd (.inr phase) quiet⟩
  · intro site data found
    refine (kept.shown site data found).imp_left ?_
    rintro ⟨scan, member, writing⟩
    exact ⟨scan, mem_append_left _ member, writing⟩

theorem call (kept : TotalsKept scans) {registry : Registry}
    (ended : registry.ended = scans.shared.ended)
    (count : scans.shared.nextSite ≤ registry.nextSite)
    (sites : ∀ site data, registry.sites.lookup site = some data →
      scans.shared.sites.lookup site = some data ∨
        site = scans.shared.nextSite ∧ site < registry.nextSite ∧ data.totals = {}) :
    TotalsKept { scans with shared := registry } := by
  refine ⟨?_, ?_, ?_, kept.alone, ?_, ?_⟩
  · intro site member
    obtain ⟨data, found⟩ := mem_keys_iff.mp member
    rcases sites site data found with old | ⟨-, new, -⟩
    · exact Nat.lt_of_lt_of_le (kept.sites site (mem_keys_iff.mpr ⟨data, old⟩)) count
    · exact new
  · exact fun scan member => Nat.lt_of_lt_of_le (kept.workers scan member) count
  · rw [ended]
    exact fun entry member => Nat.lt_of_lt_of_le (kept.logged entry member) count
  · intro scan member data found
    rcases sites scan.site data found with old | ⟨new, -⟩
    · exact kept.written scan member data old
    · exact absurd new (Nat.ne_of_lt (kept.workers scan member))
  · intro site data found
    have recorded : registry.lastRecorded site = scans.shared.lastRecorded site := by
      rw [Registry.lastRecorded, Registry.lastRecorded, ended]
    rw [recorded]
    rcases sites site data found with old | ⟨rfl, -, blank⟩
    · exact kept.shown site data old
    · have unknown : scans.shared.ended.lookup scans.shared.nextSite = none := by
        refine lookup_eq_none_iff.mpr fun entry member => ?_
        simpa using Nat.ne_of_gt (kept.logged entry member)
      right
      rw [blank, Registry.lastRecorded, unknown]
      rfl

theorem logEnd (kept : TotalsKept scans) (found : scans.locals[index]? = some scan) :
    ∀ entry ∈ (scan.site, scan.found) :: scans.shared.ended, entry.1 < scans.shared.nextSite := by
  intro entry member
  rcases mem_cons.mp member with rfl | old
  · exact kept.workers scan (mem_of_getElem? found)
  · exact kept.logged entry old

theorem lookup_writeTotals {registry : Registry} {site : Nat} {write : Totals → Totals} {data : Site}
    (there : (registry.writeTotals site write).sites.lookup site = some data) :
    ∃ old, registry.sites.lookup site = some old ∧ { old with totals := write old.totals } = data := by
  rw [Registry.writeTotals, lookup_modify_self] at there
  exact Option.map_eq_some_iff.mp there

theorem lastRecorded_logEnd (registry : Registry) (site other : Nat) (found : List Asset) :
    (registry.logEnd site found).lastRecorded other =
      if other = site then found else registry.lastRecorded other := by
  unfold Registry.lastRecorded Registry.logEnd
  by_cases same : other = site
  · simp [same]
  · have different : (other == site) = false := by simpa using same
    simp [lookup_cons, different, same]

theorem move (kept : TotalsKept scans) (vulnerabilities : List Vulnerability)
    (found : scans.locals[index]? = some scan)
    (orderly : scan.phase = .summing → ∀ other ∈ scans.locals, other.site = scan.site →
      ¬ other.Writing) :
    TotalsKept (scans.step (ScanWorker.move vulnerabilities) index) := by
  have clear : scan.phase = .summing ∨ scan.Writing → ∀ j other, scans.locals[j]? = some other →
      j ≠ index → other.site = scan.site → ¬ other.Writing := by
    rintro (summing | writing) j other at_j away same writing'
    · exact orderly summing other (mem_of_getElem? at_j) same writing'
    · exact away (kept.alone j index other scan at_j found writing' writing same)
  have own := fun data => kept.written scan (mem_of_getElem? found) data
  unfold Threads.step
  rw [found]
  dsimp only
  unfold ScanWorker.move
  cases phase : scan.phase with
  | next left =>
    have quiet : ¬ scan.Writing := by simp [ScanWorker.Writing, phase]
    cases left with
    | nil =>
      exact kept.silent found rfl quiet (by simp [ScanWorker.Writing]) rfl rfl kept.logged
        fun _ _ => rfl
    | cons ip rest =>
      dsimp only
      split <;> exact kept.silent found rfl quiet (by simp [ScanWorker.Writing]) rfl rfl kept.logged
          fun _ _ => rfl
  | numbering ip left =>
    exact kept.silent found rfl (by simp [ScanWorker.Writing, phase])
      (by simp [ScanWorker.Writing]) rfl rfl kept.logged fun _ _ => rfl
  | counting ip number left =>
    exact kept.silent found rfl (by simp [ScanWorker.Writing, phase])
      (by simp [ScanWorker.Writing]) rfl rfl kept.logged fun _ _ => rfl
  | storing ip id left =>
    exact kept.silent found rfl (by simp [ScanWorker.Writing, phase])
      (by simp [ScanWorker.Writing]) rfl rfl kept.logged fun _ _ => rfl
  | summing =>
    have quiet : ¬ scan.Writing := by simp [ScanWorker.Writing, phase]
    dsimp only
    split
    · refine kept.write found rfl (clear (.inl phase)) (by simp [Registry.writeTotals]) rfl
        kept.logged (fun site other => ⟨?_, rfl⟩) fun data there => ⟨⟨fun _ => ?_, nofun⟩, ?_⟩
      · exact lookup_modify_of_ne _ _ other
      · obtain ⟨old, -, rfl⟩ := lookup_writeTotals there
        rfl
      · exact .inl (.inl rfl)
    · rename_i gone
      refine kept.silent found rfl quiet (by simp [ScanWorker.Writing]) rfl rfl
        (kept.logEnd found) fun site member => ?_
      have different : site ≠ scan.site := fun same => gone (same ▸ member)
      rw [lastRecorded_logEnd, if_neg different]
  | countsLeft =>
    dsimp only
    refine kept.write found rfl (clear (.inr (.inl phase))) (by simp [Registry.writeTotals]) rfl
      kept.logged (fun site other => ⟨?_, rfl⟩) fun data there => ⟨⟨nofun, fun _ => ?_⟩, ?_⟩
    · exact lookup_modify_of_ne _ _ other
    · obtain ⟨old, was, rfl⟩ := lookup_writeTotals there
      exact ⟨(own old was).1 phase, rfl⟩
    · exact .inl (.inr rfl)
  | riskLeft =>
    dsimp only
    let written := scans.shared.writeTotals scan.site fun totals =>
      { totals with riskScore := (scan.found.map Asset.riskScore).sum }
    have keys : written.sites.keys = scans.shared.sites.keys := by
      simp [written, Registry.writeTotals]
    refine kept.write found rfl (clear (.inr (.inr phase))) keys rfl (kept.logEnd found)
      (fun site other => ⟨?_, ?_⟩) fun data there => ⟨⟨nofun, nofun⟩, .inr ?_⟩
    · exact lookup_modify_of_ne _ _ other
    · rw [lastRecorded_logEnd, if_neg other]
      rfl
    · have there' : written.sites.lookup scan.site = some data := there
      obtain ⟨old, was, rfl⟩ := lookup_writeTotals there'
      obtain ⟨assets, counts⟩ := (own old was).2 phase
      rw [lastRecorded_logEnd, if_pos rfl]
      simp [totalsOf, assets, counts]
  | ended =>
    have same : scans.locals.set index scan = scans.locals := by
      obtain ⟨inRange, there⟩ := List.getElem?_eq_some_iff.mp found
      rw [← there, set_getElem_self]
    rw [same]
    exact kept

end TotalsKept

/-! ## Runs -/

/-- What holds along every orderly run. -/
structure Settled (scans : Scans) : Prop where
  placed : AssetsPlaced scans.shared
  kept : TotalsKept scans

namespace Settled

variable {scans : Scans}

theorem fitsSites (settled : Settled scans) : FitsSites scans where
  unique := settled.placed.unique
  owned := fun asset member => (settled.placed.placed asset member).imp_right
    fun ⟨deletion, active, here, _⟩ => ⟨deletion, active, here⟩
  totals := by
    intro idle site data found
    refine (settled.kept.shown site data found).resolve_left ?_
    rintro ⟨scan, member, -, writing⟩
    rcases writing with phase | phase <;> cases phase.symm.trans (idle scan member)

/-- A deletion that goes on leaves everything but assets alone. -/
theorem frame_continueDeletion (registry : Registry) :
    (continueDeletion registry).sites = registry.sites ∧
      (continueDeletion registry).nextSite = registry.nextSite ∧
      (continueDeletion registry).ended = registry.ended := by
  unfold Nexpose.continueDeletion
  split
  · exact ⟨rfl, rfl, rfl⟩
  · split <;> exact ⟨rfl, rfl, rfl⟩

theorem quietStep (settled : Settled scans) {move : Registry → ScanWorker → Registry × ScanWorker}
    (index : Nat) (shared : ∀ scan, (move scans.shared scan).1 = scans.shared)
    (moved : ∀ scan, (move scans.shared scan).2 = scan ∨
      (move scans.shared scan).2.site = scan.site ∧ ¬ scan.Writing ∧
        ¬ (move scans.shared scan).2.Writing) :
    Settled (scans.step move index) := by
  cases found : scans.locals[index]? with
  | none => rwa [Threads.step_of_none found]
  | some scan =>
    have after : scans.step move index =
        ⟨scans.shared, scans.locals.set index (move scans.shared scan).2⟩ := by
      simp only [Threads.step, found, shared]
    rw [after]
    refine ⟨settled.placed, ?_⟩
    rcases moved scan with same | ⟨site, quiet, quiet'⟩
    · have unmoved : scans.locals.set index scan = scans.locals := by
        obtain ⟨inRange, there⟩ := List.getElem?_eq_some_iff.mp found
        rw [← there, set_getElem_self]
      rw [same, unmoved]
      exact settled.kept
    · exact settled.kept.silent found site quiet quiet' rfl rfl settled.kept.logged fun _ _ => rfl

theorem step (settled : Settled scans) {event : SiteEvent} (orderly : OrderlyScan scans event) :
    Settled (scansStep scans event) := by
  cases event with
  | createSite request =>
    simp only [scansStep]
    split
    · refine ⟨settled.placed.createSite request, ?_⟩
      unfold Nexpose.createSite
      dsimp only
      split
      · exact settled.kept
      · split
        · exact settled.kept
        · refine settled.kept.call rfl (le_succ _) fun site data found => ?_
          rw [lookup_insert] at found
          split at found
          · rename_i new
            exact .inr ⟨new, new ▸ lt_succ_self _, by rw [← Option.some.inj found]⟩
          · exact .inl found
    · exact settled
  | deleteSite site =>
    simp only [scansStep]
    split
    · rename_i idle
      refine ⟨settled.placed.deleteSite idle site, ?_⟩
      unfold Nexpose.deleteSite
      split
      · refine settled.kept.call rfl (Nat.le_refl _) fun other data found => .inl ?_
        rw [lookup_erase] at found
        split at found
        · cases found
        · exact found
      · exact settled.kept
    · exact settled
  | continueDeletion =>
    obtain ⟨sites, count, ended⟩ := frame_continueDeletion scans.shared
    refine ⟨settled.placed.continueDeletion, settled.kept.call ended (Nat.le_of_eq count.symm) ?_⟩
    exact fun site data found => .inl (sites ▸ found)
  | failDeletion =>
    refine ⟨settled.placed.failDeletion ?_, settled.kept.call rfl (Nat.le_refl _) fun _ _ => .inl⟩
    intro deletion active
    simpa [OrderlyScan, active] using orderly
  | startScan site templateId addresses =>
    simp only [scansStep, startScan]
    cases found : scans.shared.sites.lookup site with
    | none => exact settled
    | some data =>
      dsimp only
      generalize (if templateId.getD "" ≠ "" then templateId.getD "" else data.scanTemplate) =
        template
      split
      · exact settled
      · have quiet : ¬ ScanWorker.Writing
            { site, phase := .next (resolveTargets data addresses) } := by
          simp [ScanWorker.Writing]
        have there := mem_keys_iff.mpr ⟨data, found⟩
        exact ⟨settled.placed, settled.kept.spawn there quiet⟩
  | worker index vulnerabilities =>
    simp only [scansStep]
    cases found : scans.locals[index]? with
    | none => rwa [Threads.step_of_none found]
    | some scan =>
      simp only [OrderlyScan, found] at orderly
      refine ⟨?_, settled.kept.move vulnerabilities found fun phase => ?_⟩
      · rw [Threads.shared_step found]
        refine settled.placed.move vulnerabilities fun ip id left phase => ?_
        simpa [phase] using orderly
      · simpa [phase] using orderly
  | halt index =>
    refine settled.quietStep index (fun scan => ?_) fun scan => ?_
    · unfold ScanWorker.halt
      split <;> rfl
    · unfold ScanWorker.halt
      split
      · rename_i phase
        exact .inr ⟨rfl, by simp [ScanWorker.Writing, phase], by simp [ScanWorker.Writing]⟩
      · exact .inl rfl
  | fail index =>
    refine settled.quietStep index (fun scan => ?_) fun scan => ?_
    · unfold ScanWorker.fail
      split <;> rfl
    · unfold ScanWorker.fail
      split
      · exact .inl rfl
      · rename_i quiet
        exact .inr ⟨rfl, quiet, by simp [ScanWorker.Writing]⟩

end Settled

/-- Scan results fit their sites throughout every run in which each asset is stored for a site that
is there and has no other asset with the address, the totals of a site are written by one worker at
a time, and no deletion breaks off before the last asset. -/
theorem results_fit_sites (events : List SiteEvent)
    (orderly : Along scansStep OrderlyScan ⟨{}, []⟩ events) :
    Throughout scansStep FitsSites ⟨{}, []⟩ events := by
  have start : Settled ⟨{}, []⟩ := by
    refine ⟨⟨nofun, nofun, nofun⟩, ⟨nofun, nofun, nofun, nofun, nofun, ?_⟩⟩
    intro site data found
    cases found
  have preserved : ∀ scans event, Settled scans → OrderlyScan scans event →
      Settled (scansStep scans event) := fun _ _ settled orderly => settled.step orderly
  have settled := throughout_of_along preserved start orderly
  exact settled.weaken fun _ => Settled.fitsSites

/-- A site is made and scanned twice, and then deleted. -/
theorem two_scans_fit : Throughout scansStep FitsSites ⟨{}, []⟩
    [.createSite { name := "lab" }, .startScan 1 none ["10.0.0.1"], .worker 0 [], .worker 0 [],
      .worker 0 [], .worker 0 [⟨.severe, 604⟩], .worker 0 [], .worker 0 [], .worker 0 [],
      .worker 0 [], .startScan 1 none ["10.0.0.1"], .worker 1 [], .worker 1 [], .worker 1 [],
      .worker 1 [], .worker 1 [], .worker 1 [], .deleteSite 1, .continueDeletion,
      .continueDeletion, .continueDeletion] := by
  exact results_fit_sites _ (by decide +kernel)

/-- Two scans of one site look for the asset of an address before either of them stores it. -/
theorem two_assets_stored : ¬ Throughout scansStep FitsSites ⟨{}, []⟩
    [.createSite { name := "lab" }, .startScan 1 none ["10.0.0.1"],
      .startScan 1 none ["10.0.0.1"], .worker 0 [], .worker 1 [], .worker 0 [], .worker 0 [],
      .worker 0 [], .worker 1 [], .worker 1 [], .worker 1 []] := by
  intro fits
  have last := fits.finish.unique (assess 1 "10.0.0.1" 1 []) (by decide)
    (assess 1 "10.0.0.1" 2 []) (by decide) rfl rfl
  exact absurd last (by decide)

end NetLab.Nexpose
