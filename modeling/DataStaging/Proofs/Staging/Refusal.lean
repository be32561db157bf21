import DataStaging.Proofs.Mount.Mounted
import DataStaging.Proofs.Staging.Stages

/-!
# Manifests that stage nothing

The workers of the first pass have handled entries by the time the pass comes upon a flaw: a part of
the manifest that cannot be decoded, or a storage path outside the hash root that is no locator. But
they have only recorded locators, and no order of their steps hides the flaw. So the staging fails,
naming a flaw, and has done nothing on its host.

Results:
* `fault_of_note`: what is wrong with an entry that cannot be taken into account.
* `exists_fault_of_flawed`: every run over a flawed manifest has a fault that names a flaw.
* `refused_of_flawed`: what stagings of a flawed manifest come to.
-/

namespace DataStaging

open Manifest.Survey (underRoot effectiveRoot)

namespace Manifest

/-- Something is wrong with the manifest that a path leads to: it cannot be read to its end, or it
    has an entry outside the root that names no locator. -/
def Flawed (t : FileTree) (folder : Location) (path : String) (root : Option String) : Prop :=
  (¬ ∃ l contents, t.find folder (Utf8.encode path) = .ok (l, .file contents) ∧
    (read contents).outcome = .ok ()) ∨
  ∃ e ∈ (readPath t folder path none).1, underRoot root e.storagePath = false ∧
    ∃ flaw, Locator.read e.storagePath = .error flaw

/-- The fault names the manifest, or the storage path of one of its entries outside the root. -/
def NamesFlaw (t : FileTree) (folder : Location) (path : String) (root : Option String)
    (fault : Fault) : Prop :=
  (∃ message, fault = .manifest path message) ∨
  ∃ e ∈ (readPath t folder path none).1, underRoot root e.storagePath = false ∧
    ∃ flaw : LocatorFlaw, fault = .invalidLocator e.storagePath flaw.message

variable {root : Option String} {t : FileTree} {folder : Location} {path : String}

/-- An entry that cannot be taken into account is outside the root and names no locator. -/
theorem fault_of_note {entry : ManifestEntry} {s : Survey} {fault : Fault}
    (h : Survey.note root entry s = .error fault) :
    underRoot root entry.storagePath = false ∧
      ∃ flaw : LocatorFlaw, fault = .invalidLocator entry.storagePath flaw.message := by
  unfold Survey.note at h
  split_ifs at h with hunder
  refine ⟨by simpa using hunder, ?_⟩
  unfold MountTable.recordText Locator.parse at h
  cases hread : Locator.read entry.storagePath with
  | ok l =>
    rw [hread] at h
    cases h
  | error flaw =>
    rw [hread] at h
    exact ⟨flaw, (Except.error.inj h).symm⟩

/-- However the workers take their steps, the first pass over a flawed manifest has a fault, and the
    fault names a flaw. -/
theorem exists_fault_of_flawed {n depth : Nat} {final : Pool Survey} {r : Except Fault Unit}
    (hflawed : Flawed t folder path root)
    (h : Pool.Runs (surveyJob root (readPath t folder path none) depth)
      (Pool.start (surveyJob root (readPath t folder path none) depth) n .start) final)
    (hr : final.result = some r) :
    ∃ fault, r = .error fault ∧ NamesFlaw t folder path root fault := by
  cases r with
  | ok u =>
    -- a pass without a fault has read the manifest to its end, and all its locators
    obtain ⟨hending, -, -⟩ := Pool.ended_of_result_ok h hr
    have hreadable := readable_of_process (process_of_result h hr)
    rcases hflawed with hundecoded | ⟨e, he, hout, flaw, hflaw⟩
    · exact absurd (exists_count_iff.mp hending) hundecoded
    · obtain ⟨l, hl⟩ := hreadable e he hout
      rw [hflaw] at hl
      cases hl
  | error fault =>
    refine ⟨fault, rfl, ?_⟩
    rcases Pool.fault_of_result_error h hr with ⟨e, he⟩ | ⟨hending, -, -⟩
    · have hjob : ∀ e ∈ (surveyJob root (readPath t folder path none) depth).entries,
          ((surveyJob root (readPath t folder path none) depth).handle e).Within
            (fun _ _ => True) (fun o => ∀ fault, o = .error fault →
              underRoot root e.storagePath = false ∧
                ∃ flaw : LocatorFlaw, fault = .invalidLocator e.storagePath flaw.message) := by
        intro e _ s
        refine ⟨trivial, fun fault hfault => ?_⟩
        cases hnote : Survey.note root e s with
        | ok s' =>
          rw [hnote] at hfault
          cases hfault
        | error fault' =>
          rw [hnote] at hfault
          cases hfault
          exact fault_of_note hnote
      exact Or.inr ⟨e, Pool.mem_entries_of_ended h he, Pool.ended_of_runs hjob h _ he fault rfl⟩
    · exact Or.inl (readPath_error hending)

end Manifest

namespace Stager

variable {stager : Stager} {a : Assignment} {h : Host}

/-- A manifest that cannot be read to its end, or that has an entry outside the root which names no
    locator, stages nothing. Whatever the number of workers, the depth of the queue and the order of
    the steps, the first pass comes to a fault that names a flaw of the manifest. There is a staging
    then, and each of them ends with such a fault, never comes to serve a base, and leaves its host
    as it was: its files, its notices and the programs started. -/
theorem refused_of_flawed (stager : Stager) (a : Assignment) (h : Host)
    (hflawed : Manifest.Flawed h.tree h.folder a.manifest (effectiveRoot a.hashRoot)) :
    Pool.Comes (a.surveyJob h)
      (fun r s => ∃ fault, Manifest.answer (effectiveRoot a.hashRoot) r s.shared = .error fault ∧
        Manifest.NamesFlaw h.tree h.folder a.manifest (effectiveRoot a.hashRoot) fault)
      (Pool.start (a.surveyJob h) a.workers .start) ∧
    (∃ served r h', stager.Stages a h served r h') ∧
    ∀ served r h', stager.Stages a h served r h' → served = none ∧ h' = h ∧
      ∃ fault, r = .error (.fault fault) ∧
        Manifest.NamesFlaw h.tree h.folder a.manifest (effectiveRoot a.hashRoot) fault := by
  have hanswer : ∀ final r, Pool.Runs (a.surveyJob h)
      (Pool.start (a.surveyJob h) a.workers .start) final → final.result = some r →
      ∃ fault, Manifest.answer (effectiveRoot a.hashRoot) r final.shared = .error fault ∧
        Manifest.NamesFlaw h.tree h.folder a.manifest (effectiveRoot a.hashRoot) fault := by
    intro final r hruns hr
    obtain ⟨fault, rfl, hnames⟩ := Manifest.exists_fault_of_flawed hflawed hruns hr
    exact ⟨fault, rfl, hnames⟩
  refine ⟨Pool.comes_of_runs hanswer .refl, ?_, ?_⟩
  · obtain ⟨served, hstages⟩ := stages_of_stage stager a h
    exact ⟨served, _, _, hstages⟩
  · intro served r h' hstages
    cases hstages with
    | @refused fault hans =>
      obtain ⟨final, r, hruns, hr, ho⟩ := hans
      obtain ⟨fault', hfault, hnames⟩ := hanswer final r hruns hr
      obtain rfl : fault = fault' := Except.error.inj (ho.trans hfault)
      exact ⟨rfl, rfl, fault, rfl, hnames⟩
    | halted hans | linked hans =>
      -- a staging that came further would have had a table
      obtain ⟨final, r, hruns, hr, ho⟩ := hans
      obtain ⟨fault, hfault, -⟩ := hanswer final r hruns hr
      rw [hfault] at ho
      cases ho

/-- A manifest of two good entries, with a letter behind its end. -/
def trailingText : FileTree :=
  ⟨[([Utf8.encode "m"], .file (Utf8.encode
    ("[\x7b\"relative_path\":\"a\",\"storage_path\":\"s3://b/a\"\x7d," ++
      "\x7b\"relative_path\":\"b\",\"storage_path\":\"s3://b/b\"\x7d] x")))]⟩

/-- Both entries come before the letter, and may have been handled when it is found. -/
theorem refused_for_trailing_text :
    (Manifest.readPath trailingText [] "m" none).1 = [⟨"a", "s3://b/a"⟩, ⟨"b", "s3://b/b"⟩] ∧
    Manifest.Flawed trailingText [] "m" none ∧
    ∀ (stager : Stager) served r h',
      stager.Stages ⟨"m", none, "/task", "/mnt", 4, 2⟩
        { Mounting.clientHost with tree := trailingText } served r h' →
      h' = { Mounting.clientHost with tree := trailingText } ∧
        ∃ fault, r = .error (.fault fault) := by
  have hlisting : Manifest.readPath trailingText [] "m" none =
      ([⟨"a", "s3://b/a"⟩, ⟨"b", "s3://b/b"⟩],
        .error (.manifest "m" "trailing characters at line 1 column 99")) := by decide +kernel
  have hflawed : Manifest.Flawed trailingText [] "m" none := by
    refine Or.inl ?_
    rw [← Manifest.exists_count_iff, hlisting]
    rintro ⟨count, hcount⟩
    cases hcount
  refine ⟨by rw [hlisting], hflawed, fun stager served r h' hstages => ?_⟩
  obtain ⟨-, -, hall⟩ := refused_of_flawed stager ⟨"m", none, "/task", "/mnt", 4, 2⟩
    { Mounting.clientHost with tree := trailingText } hflawed
  obtain ⟨-, hsame, fault, hfault, -⟩ := hall served r h' hstages
  exact ⟨hsame, fault, hfault⟩

end Stager

end DataStaging
