import DataStaging.Proofs.Manifest.Footprint

/-!
# Where links land

An entry's place is refused if it leads upward, so its links and directories are below the
destination as far as their names go. A link that stands on the way may lead elsewhere all the same,
and it may be one that was made for another entry, whose place is the beginning of this one's. This
module says exactly when a run stays inside the destination.

Results:
* `grows_of_runs`: nothing that was there is changed.
* `contained_iff_of_runs`: a run stays inside the destination if and only if no step strays through
  a link on the way to an entry's place; and none strays if no entry's place is the beginning of
  another's and no link was there from the start.
-/

namespace DataStaging.Manifest

open FileTree (Makes Leads LinkOnWay Grows named steps start here up)
open Utf8 (encode)

variable {folder : Location} {destination : String} {t t' t₀ : FileTree} {l D : Location}

/-! ## Inside the destination -/

/-- The destination leads to the location `D`. -/
def Reaches (folder : Location) (destination : String) (t : FileTree) (D : Location) : Prop :=
  Leads t (start folder (encode destination)) (steps (encode destination)) D

/-- The location is where the destination leads to, or below. -/
def Inside (folder : Location) (destination : String) (t : FileTree) (l : Location) : Prop :=
  ∃ D, Reaches folder destination t D ∧ D <+: l

/-- The location is a directory that the first steps of the destination lead to. -/
def OnWay (folder : Location) (destination : String) (t : FileTree) (l : Location) : Prop :=
  t.get? l = some .directory ∧
    ∃ a, a <+: steps (encode destination) ∧ Leads t (start folder (encode destination)) a l

/-- The only locations that differ are new, and they are inside the destination or on the way. -/
def Contained (folder : Location) (destination : String) (t₀ t : FileTree) : Prop :=
  ∀ l, t.get? l ≠ t₀.get? l →
    t₀.get? l = none ∧ (Inside folder destination t l ∨ OnWay folder destination t l)

theorem reaches_of_grows (h : Reaches folder destination t D) (hg : Grows t t') :
    Reaches folder destination t' D := FileTree.leads_of_grows h hg

theorem inside_of_grows (h : Inside folder destination t l) (hg : Grows t t') :
    Inside folder destination t' l := by
  obtain ⟨D, hD, hl⟩ := h
  exact ⟨D, reaches_of_grows hD hg, hl⟩

theorem onWay_of_grows (h : OnWay folder destination t l) (hg : Grows t t') :
    OnWay folder destination t' l := by
  obtain ⟨hdir, a, ha, hl⟩ := h
  exact ⟨hg _ _ hdir, a, ha, FileTree.leads_of_grows hl hg⟩

/-- Once the destination leads somewhere, a location that is outside stays outside. -/
theorem inside_of_reaches (hD : Reaches folder destination t D) (hg : Grows t t')
    (h : Inside folder destination t' l) : Inside folder destination t l := by
  obtain ⟨D', hD', hl⟩ := h
  obtain rfl := FileTree.leads_unique hD' (reaches_of_grows hD hg)
  exact ⟨D', hD, hl⟩

theorem onWay_of_reaches (hD : Reaches folder destination t D) (hg : Grows t t')
    {node : Node} (hl : t.get? l = some node) (h : OnWay folder destination t' l) :
    OnWay folder destination t l := by
  obtain ⟨hdir, a, ⟨b, hab⟩, hal⟩ := h
  rw [hg _ _ hl] at hdir
  rw [Reaches, ← hab] at hD
  obtain ⟨o, ho, -⟩ := FileTree.leads_append hD
  obtain rfl := FileTree.leads_unique hal (FileTree.leads_of_grows ho hg)
  exact ⟨hl.trans hdir, a, ⟨b, hab⟩, ho⟩

theorem contained_refl (t : FileTree) : Contained folder destination t t :=
  fun _ h => absurd rfl h

/-! ## Steps that stray -/

/-- A step strays: it makes a node outside the destination, in a folder that an entry's place leads
    to through a link below the destination. -/
def Strays (folder : Location) (destination : String) (entries : List ManifestEntry)
    (t t' : FileTree) : Prop :=
  ∃ entry ∈ entries, ∃ D before name o,
    Reaches folder destination t D ∧
    before ++ [name] <+: placeSteps entry ∧ name ≠ here ∧
    Leads t D before o ∧ LinkOnWay t D before ∧
    t.get? (o ++ [name]) = none ∧ t'.get? (o ++ [name]) ≠ none ∧
    ¬ Inside folder destination t' (o ++ [name]) ∧ ¬ OnWay folder destination t' (o ++ [name])

theorem grows_of_touches {entry : ManifestEntry} (h : Touches folder destination entry t t') :
    Grows t t' := by
  rcases h with rfl | ⟨-, ⟨_, _, _, _, -, hmakes⟩ | ⟨_, _, _, _, -, hmakes⟩⟩
  · exact .refl _
  · exact hmakes.grows
  · exact hmakes.grows

/-- What an entry's handling makes below the destination is inside, or a step has strayed. -/
theorem inside_or_strays {entries : List ManifestEntry} {entry : ManifestEntry}
    (he : entry ∈ entries) (hup : up ∉ placeSteps entry) {r before : List Bytes} {node : Node}
    {o : Location} {name : FileName} (hr : r <+: placeSteps entry) (hne : r ≠ [])
    (h : Makes t (start folder (encode destination)) (steps (encode destination) ++ r) node t'
      before o name) :
    (Inside folder destination t' (o ++ [name]) ∨ OnWay folder destination t' (o ++ [name])) ∨
      Strays folder destination entries t t' := by
  obtain ⟨q, last, hq⟩ : ∃ q last, r = q ++ [last] :=
    ⟨_, _, (List.dropLast_append_getLast hne).symm⟩
  have hsteps := h.steps_eq
  rw [hq, ← List.append_assoc] at hsteps
  obtain ⟨hbefore, hlast⟩ := List.append_inj' hsteps rfl
  obtain rfl : last = name := by simpa using hlast
  obtain ⟨D, hD, hqo⟩ := FileTree.leads_append (hbefore ▸ h.leads)
  have hqup : up ∉ q := fun hm => hup (hr.subset (by rw [hq]; exact List.mem_append_left _ hm))
  rcases FileTree.leads_named hqo hqup with ho | hlink
  · left
    left
    refine ⟨D, reaches_of_grows hD h.grows, ?_⟩
    rw [ho, List.append_assoc]
    exact List.prefix_append _ _
  · by_cases hallowed : Inside folder destination t' (o ++ [last]) ∨
        OnWay folder destination t' (o ++ [last])
    · exact Or.inl hallowed
    · right
      rw [not_or] at hallowed
      refine ⟨entry, he, D, q, last, o, hD, hq ▸ hr, h.isName.ne_here, hqo, hlink, h.missing, ?_,
        hallowed.1, hallowed.2⟩
      rw [h.get?_self]
      exact Option.some_ne_none node

/-- A change that an entry needs is none, or a node inside the destination or on the way, or it
    strays. -/
theorem cases_of_touches {entries : List ManifestEntry} {entry : ManifestEntry}
    (he : entry ∈ entries) (h : Touches folder destination entry t t') :
    t' = t ∨ (∃ l node, t.get? l = none ∧ t' = t.put l node ∧
        (Inside folder destination t' l ∨ OnWay folder destination t' l)) ∨
      Strays folder destination entries t t' := by
  rcases h with rfl |
    ⟨hup, ⟨a, before, o, name, ha, hmakes⟩ | ⟨target, before, o, name, hne, hmakes⟩⟩
  · exact Or.inl rfl
  · rcases List.prefix_or_prefix_of_prefix ha (List.prefix_append _ _) with ha' | ⟨r, rfl⟩
    · -- a directory of the destination's own steps
      refine Or.inr (Or.inl ⟨_, _, hmakes.missing, hmakes.eq_put, Or.inr ?_⟩)
      exact ⟨hmakes.get?_self, a, ha', hmakes.leads_self⟩
    · have hr := (List.prefix_append_right_inj _).mp ha
      by_cases hr0 : r = []
      · subst hr0
        refine Or.inr (Or.inl ⟨_, _, hmakes.missing, hmakes.eq_put, Or.inr ?_⟩)
        exact ⟨hmakes.get?_self, _, by simp, hmakes.leads_self⟩
      · rcases inside_or_strays he hup hr hr0 hmakes with hin | hs
        · exact Or.inr (Or.inl ⟨_, _, hmakes.missing, hmakes.eq_put, hin⟩)
        · exact Or.inr (Or.inr hs)
  · rcases inside_or_strays he hup List.prefix_rfl hne hmakes with hin | hs
    · exact Or.inr (Or.inl ⟨_, _, hmakes.missing, hmakes.eq_put, hin⟩)
    · exact Or.inr (Or.inr hs)

theorem contained_put (h : Contained folder destination t₀ t) (hg : Grows t₀ t)
    (hl : t.get? l = none) {node : Node}
    (hin : Inside folder destination (t.put l node) l ∨ OnWay folder destination (t.put l node) l) :
    Contained folder destination t₀ (t.put l node) := by
  have hput := FileTree.grows_put hl node
  intro l' hl'
  by_cases he : l' = l
  · subst he
    refine ⟨?_, hin⟩
    cases h₀ : t₀.get? l' with
    | none => rfl
    | some node' =>
      rw [hg _ _ h₀] at hl
      cases hl
  · rw [FileTree.get?_put_of_ne t he] at hl'
    obtain ⟨hnone, hin | hon⟩ := h l' hl'
    · exact ⟨hnone, Or.inl (inside_of_grows hin hput)⟩
    · exact ⟨hnone, Or.inr (onWay_of_grows hon hput)⟩

/-- What has strayed shows in every later tree. -/
theorem not_contained_of_strays {entries : List ManifestEntry} {t₁ : FileTree}
    (hs : Strays folder destination entries t t') (h₀ : Grows t₀ t) (hstep : Grows t t')
    (h₁ : Grows t' t₁) : ¬ Contained folder destination t₀ t₁ := by
  intro hcontained
  obtain ⟨entry, -, D, before, name, o, hD, -, -, -, -, hnone, hsome, hin, hon⟩ := hs
  obtain ⟨node, hnode⟩ := Option.ne_none_iff_exists'.mp hsome
  have hold : t₀.get? (o ++ [name]) = none := by
    cases h : t₀.get? (o ++ [name]) with
    | none => rfl
    | some node' =>
      rw [h₀ _ _ h] at hnone
      cases hnone
  have hdiff : t₁.get? (o ++ [name]) ≠ t₀.get? (o ++ [name]) := by
    rw [hold, h₁ _ _ hnode]
    exact Option.some_ne_none node
  have hD' := reaches_of_grows hD hstep
  rcases (hcontained _ hdiff).2 with h | h
  · exact hin (inside_of_reaches hD' h₁ h)
  · exact hon (onWay_of_reaches hD' h₁ hnode h)

/-! ## Runs -/

variable {table : MountTable} {listing : Listing} {n depth : Nat} {s s' final : Pool Linking}

/-- A step of the pool leaves the tree alone or makes what some entry needs. -/
theorem touches_of_step {report : LinkReport}
    (hruns : Pool.Runs (linkJob table destination folder listing depth)
      (Pool.start (linkJob table destination folder listing depth) n ⟨t₀, report⟩) s)
    (h : Pool.Step (linkJob table destination folder listing depth) s s') :
    s'.shared.tree = s.shared.tree ∨
      ∃ e ∈ listing.1, Touches folder destination e s.shared.tree s'.shared.tree := by
  have hjob := within_linkJob table destination folder listing depth
  rcases Pool.changed_of_step hjob hruns h with heq | he
  · exact Or.inl (by rw [heq])
  · exact Or.inr he

theorem grows_of_step {report : LinkReport}
    (hruns : Pool.Runs (linkJob table destination folder listing depth)
      (Pool.start (linkJob table destination folder listing depth) n ⟨t₀, report⟩) s)
    (h : Pool.Step (linkJob table destination folder listing depth) s s') :
    Grows s.shared.tree s'.shared.tree := by
  rcases touches_of_step hruns h with heq | ⟨e, -, ht⟩
  · rw [heq]
    exact .refl _
  · exact grows_of_touches ht

/-- Nothing that was there is changed, whoever makes what in which order. -/
theorem grows_of_runs {report : LinkReport}
    (hruns : Pool.Runs (linkJob table destination folder listing depth)
      (Pool.start (linkJob table destination folder listing depth) n ⟨t₀, report⟩) s)
    (h : Pool.Runs (linkJob table destination folder listing depth) s final) :
    Grows s.shared.tree final.shared.tree := by
  induction h with
  | refl => exact .refl _
  | tail hrest hstep ih => exact ih.trans (grows_of_step (hruns.trans hrest) hstep)

/-- As long as no step strays, a run stays inside the destination. -/
theorem contained_of_runs {report : LinkReport}
    (hruns : Pool.Runs (linkJob table destination folder listing depth)
      (Pool.start (linkJob table destination folder listing depth) n ⟨t₀, report⟩) s)
    (hrest : Pool.Runs (linkJob table destination folder listing depth) s final)
    (hno : ∀ a b, Pool.Runs (linkJob table destination folder listing depth)
        (Pool.start (linkJob table destination folder listing depth) n ⟨t₀, report⟩) a →
      Pool.Step (linkJob table destination folder listing depth) a b →
      Pool.Runs (linkJob table destination folder listing depth) b final →
      ¬ Strays folder destination listing.1 a.shared.tree b.shared.tree) :
    Contained folder destination t₀ s.shared.tree := by
  induction hruns with
  | refl => exact contained_refl t₀
  | tail hruns hstep ih =>
    have hb := ih (.head hstep hrest)
    rcases touches_of_step hruns hstep with heq | ⟨e, he, ht⟩
    · rw [heq]
      exact hb
    · rcases cases_of_touches he ht with heq | ⟨l, node, hl, hput, hin⟩ | hs
      · rw [heq]
        exact hb
      · rw [hput] at hin ⊢
        exact contained_put hb (grows_of_runs .refl hruns) hl hin
      · exact absurd hs (hno _ _ hruns hstep hrest)

/-! ## Entries that keep apart -/

/-- The names on the way to an entry's place, the place's own name last. -/
def placeNames (entry : ManifestEntry) : List FileName := named (placeSteps entry)

/-- No link stands below `D` where an entry's place has a folder. -/
def FreeOfLinks (entries : List ManifestEntry) (D : Location) (t : FileTree) : Prop :=
  ∀ entry ∈ entries, ∀ r, r ≠ [] → r <+: placeNames entry → r ≠ placeNames entry →
    ∀ target, t.get? (D ++ r) ≠ some (.link target)

/-- No entry's place is the beginning of another entry's place. -/
def Apart (entries : List ManifestEntry) : Prop :=
  ∀ e ∈ entries, ∀ e' ∈ entries, placeNames e <+: placeNames e' → placeNames e = placeNames e'

theorem not_linkOnWay {entries : List ManifestEntry} (h : FreeOfLinks entries D t)
    {entry : ManifestEntry} (he : entry ∈ entries) {before : List Bytes} {name : FileName}
    (hname : name ≠ here) (hp : before ++ [name] <+: placeSteps entry) :
    ¬ LinkOnWay t D before := by
  rintro ⟨r, x, target, hr, hx, hlink⟩
  have hr' : named r ++ [x] <+: named before := by
    rw [← FileTree.named_singleton hx, ← FileTree.named_append]
    exact hr.filter _
  have hp' : named before ++ [name] <+: placeNames entry := by
    rw [← FileTree.named_singleton hname, ← FileTree.named_append]
    exact hp.filter _
  refine h entry he (named r ++ [x]) (by simp) (hr'.trans ((List.prefix_append _ _).trans hp'))
    (fun heq => ?_) target (by rwa [← List.append_assoc])
  have h1 := hr'.length_le
  have h2 := hp'.length_le
  rw [heq] at h1
  rw [List.length_append, List.length_singleton] at h2
  omega

/-- The only links that are made are the entries' own, where their places name them, as long as no
    link stands on the way to a place. -/
theorem freeOfLinks_of_touches {entries : List ManifestEntry} (hapart : Apart entries)
    {entry : ManifestEntry} (he : entry ∈ entries) (h : Touches folder destination entry t t')
    (hD : ∀ D', Reaches folder destination t D' → D' = D) (hfree : FreeOfLinks entries D t) :
    FreeOfLinks entries D t' := by
  intro e' he' r hne hr hr' target hlink
  rcases h with rfl | ⟨hup, ⟨a, before, o, name, -, hmakes⟩ | ⟨_, before, o, name, hplace, hmakes⟩⟩
  · exact hfree e' he' r hne hr hr' target hlink
  · by_cases hl : D ++ r = o ++ [name]
    · rw [hl, hmakes.get?_self] at hlink
      cases hlink
    · rw [hmakes.get?_of_ne hl] at hlink
      exact hfree e' he' r hne hr hr' target hlink
  · by_cases hl : D ++ r = o ++ [name]
    · -- this is the entry's own link, so `r` names the entry's place
      obtain ⟨q, last, hq⟩ : ∃ q last, placeSteps entry = q ++ [last] :=
        ⟨_, _, (List.dropLast_append_getLast hplace).symm⟩
      have hsteps := hmakes.steps_eq
      rw [hq, ← List.append_assoc] at hsteps
      obtain ⟨hbefore, hlast⟩ := List.append_inj' hsteps rfl
      obtain rfl : last = name := by simpa using hlast
      obtain ⟨D', hD', hqo⟩ := FileTree.leads_append (hbefore ▸ hmakes.leads)
      obtain rfl := hD D' hD'
      have hqup : up ∉ q := fun hm => hup (hq ▸ List.mem_append_left _ hm)
      have hname := hmakes.isName.ne_here
      rcases FileTree.leads_named hqo hqup with ho | hway
      · have hnames : r = placeNames entry := by
          rw [ho, List.append_assoc] at hl
          rw [List.append_cancel_left hl, placeNames, hq, FileTree.named_append,
            FileTree.named_singleton hname]
        rw [hnames] at hr hr'
        exact hr' (hapart entry he e' he' hr)
      · exact not_linkOnWay hfree he hname (hq ▸ List.prefix_rfl) hway
    · rw [hmakes.get?_of_ne hl] at hlink
      exact hfree e' he' r hne hr hr' target hlink

theorem freeOfLinks_of_runs {report : LinkReport} (hapart : Apart listing.1)
    (hfree : FreeOfLinks listing.1 D t₀)
    (hruns : Pool.Runs (linkJob table destination folder listing depth)
      (Pool.start (linkJob table destination folder listing depth) n ⟨t₀, report⟩) s)
    (hD : ∀ D', Reaches folder destination s.shared.tree D' → D' = D) :
    FreeOfLinks listing.1 D s.shared.tree := by
  induction hruns with
  | refl => exact hfree
  | tail hruns hstep ih =>
    have hbefore := fun D' hD' => hD D' (reaches_of_grows hD' (grows_of_step hruns hstep))
    rcases touches_of_step hruns hstep with heq | ⟨e, he, ht⟩
    · rw [heq]
      exact ih hbefore
    · exact freeOfLinks_of_touches hapart he ht hbefore (ih hbefore)

/-- Entries that keep apart do not lead each other astray. -/
theorem not_strays_of_apart {report : LinkReport} (hapart : Apart listing.1)
    (hfree : ∀ D, Reaches folder destination final.shared.tree D → FreeOfLinks listing.1 D t₀)
    (hruns : Pool.Runs (linkJob table destination folder listing depth)
      (Pool.start (linkJob table destination folder listing depth) n ⟨t₀, report⟩) s)
    (hstep : Pool.Step (linkJob table destination folder listing depth) s s')
    (hrest : Pool.Runs (linkJob table destination folder listing depth) s' final) :
    ¬ Strays folder destination listing.1 s.shared.tree s'.shared.tree := by
  rintro ⟨entry, he, D, before, name, o, hD, hp, hname, -, hway, -⟩
  have hg := grows_of_runs hruns (.head hstep hrest)
  have hunique : ∀ D', Reaches folder destination s.shared.tree D' → D' = D :=
    fun D' hD' => FileTree.leads_unique hD' hD
  have hs := freeOfLinks_of_runs hapart (hfree D (reaches_of_grows hD hg)) hruns hunique
  exact not_linkOnWay hs he hname hp hway

/-- Nothing that was there is changed. What is made is inside the destination, or a directory on the
    way to it, if and only if no step of the run made a node outside through a link on the way to an
    entry's place. No step does so if no entry's place is the beginning of another's and none of the
    folders on the way to the places was a link from the start. -/
theorem contained_iff_of_runs {report : LinkReport}
    (h : Pool.Runs (linkJob table destination folder listing depth)
      (Pool.start (linkJob table destination folder listing depth) n ⟨t₀, report⟩) final) :
    Grows t₀ final.shared.tree ∧
    (Contained folder destination t₀ final.shared.tree ↔
      ∀ a b, Pool.Runs (linkJob table destination folder listing depth)
          (Pool.start (linkJob table destination folder listing depth) n ⟨t₀, report⟩) a →
        Pool.Step (linkJob table destination folder listing depth) a b →
        Pool.Runs (linkJob table destination folder listing depth) b final →
        ¬ Strays folder destination listing.1 a.shared.tree b.shared.tree) ∧
    (Apart listing.1 →
      (∀ D, Reaches folder destination final.shared.tree D → FreeOfLinks listing.1 D t₀) →
      Contained folder destination t₀ final.shared.tree) := by
  refine ⟨grows_of_runs .refl h, ⟨?_, contained_of_runs h .refl⟩, ?_⟩
  · intro hc a b ha hab hb hs
    have hg := grows_of_step ha hab
    have hrest := grows_of_runs (ha.tail hab) hb
    exact not_contained_of_strays hs (grows_of_runs .refl ha) hg hrest hc
  · intro hapart hfree
    exact contained_of_runs h .refl fun a b ha hab hb => not_strays_of_apart hapart hfree ha hab hb

/-! ## A link on the way -/

/-- The mount on `/mnt` serves one bucket; `dir` in it is a folder. -/
def mountedTree : FileTree :=
  ⟨[([encode "mnt", encode "dir"], .directory), ([encode "mnt"], .directory)]⟩

def mountedTable : MountTable := ⟨[⟨"s3://b", some "/mnt", "s3://b/"⟩]⟩

/-- The first entry is linked to the folder, and the second one has its place behind that link. -/
def nestedJob : Job Linking :=
  linkJob mountedTable "/task" [] ([⟨"a", "s3://b/dir"⟩, ⟨"a/x", "s3://b/f"⟩], .ok 2) 64

/-- The second link is in the folder of the mount. -/
def nestedTree : FileTree :=
  ⟨[([encode "mnt", encode "dir", encode "x"], .link (encode "/mnt/f")),
    ([encode "task", encode "a"], .link (encode "/mnt/dir")), ([encode "task"], .directory),
    ([encode "mnt", encode "dir"], .directory), ([encode "mnt"], .directory)]⟩

theorem inOrder_nestedJob :
    (Pool.inOrder nestedJob.handle nestedJob.entries ⟨mountedTree, .zero⟩).2.tree = nestedTree := by
  decide +kernel

theorem get?_nestedTree :
    nestedTree.get? [encode "mnt", encode "dir", encode "x"] = some (.link (encode "/mnt/f")) := by
  decide +kernel

theorem not_contained_nestedTree : ¬ Contained [] "/task" mountedTree nestedTree := by
  have hbefore : mountedTree.get? [encode "mnt", encode "dir", encode "x"] = none := rfl
  intro h
  obtain ⟨-, ⟨D, hD, hin⟩ | ⟨hdir, -⟩⟩ := h [encode "mnt", encode "dir", encode "x"]
    (by rw [get?_nestedTree, hbefore]; exact Option.some_ne_none _)
  · have hroot : D = [encode "task"] := FileTree.leads_unique hD ⟨0, by decide +kernel⟩
    rw [hroot] at hin
    revert hin
    decide
  · rw [get?_nestedTree] at hdir
    cases hdir

/-- The pool succeeds, and the second entry's link is in the mounted bucket's folder. -/
theorem outside_through_own_link :
    ∃ final, Pool.Runs nestedJob (Pool.start nestedJob 1 ⟨mountedTree, .zero⟩) final ∧
      final.result = some (.ok ()) ∧
      final.shared.tree.get? [encode "mnt", encode "dir", encode "x"] =
        some (.link (encode "/mnt/f")) ∧
      ¬ Contained [] "/task" mountedTree final.shared.tree ∧
      ∃ a b, Pool.Runs nestedJob (Pool.start nestedJob 1 ⟨mountedTree, .zero⟩) a ∧
        Pool.Step nestedJob a b ∧ Pool.Runs nestedJob b final ∧
        Strays [] "/task" nestedJob.entries a.shared.tree b.shared.tree := by
  obtain ⟨final, hruns, hshared, hresult⟩ :=
    Pool.exists_run_inOrder nestedJob 1 ⟨mountedTree, .zero⟩
  have htree : final.shared.tree = nestedTree := by rw [hshared, inOrder_nestedJob]
  have hnot : ¬ Contained [] "/task" mountedTree final.shared.tree := by
    rw [htree]
    exact not_contained_nestedTree
  refine ⟨final, hruns, ?_, ?_, hnot, ?_⟩
  · rw [hresult]
    decide +kernel
  · rw [htree, get?_nestedTree]
  · have hiff := (contained_iff_of_runs hruns).2.1
    by_contra hnone
    exact hnot (hiff.mpr fun a b ha hab hb hs => hnone ⟨a, b, ha, hab, hb, hs⟩)

end DataStaging.Manifest
