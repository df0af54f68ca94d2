import AppLint.Proofs.Mentions
import AppLint.Proofs.Presence
import AppLint.Proofs.Quoting
import AppLint.Rules

/-! The two rules on fragments together: each mention of a fragment leads to one that is there or is
reported, and each fragment is mentioned or is reported. -/
namespace AppLint

namespace FragmentReference

def message (id : String) : String := "unknown fragment " ++ Text.quoted id

theorem message_inj {a b : String} : message a = message b ↔ a = b := by
  show "unknown fragment " ++ Text.quoted a = "unknown fragment " ++ Text.quoted b ↔ a = b
  rw [String.append_right_inj,Text.quoted_inj]

def report (m : Mention) : Finding where
  ruleId := "fragment-reference"
  severity := .error
  message := message m.name
  path := m.document.path
  line := m.document.body.lineOfEntry "ref" m.name

theorem analyze_eq {p : Project} (hhas : p.tracker.has .fragment = true) :
    analyze p = .found (((p.mentions Component.fragmentRef?).filter fun m =>
      m.name ∉ p.fragments.values.map Fragment.id).map report) := by
  have hnone : ∀ id, (p.fragment? id).isNone = decide (id ∉ p.fragments.values.map Fragment.id) := by
    intro id
    rw [Bool.eq_iff_iff,decide_eq_true_iff,← p.isSome_fragment?,Option.isNone_iff_eq_none,
      Option.not_isSome_iff_eq_none]
  have hfound : (p.embeddings.filter fun r => (p.fragment? r.target).isNone).map finding =
      ((p.mentions Component.fragmentRef?).filter fun m =>
        m.name ∉ p.fragments.values.map Fragment.id).map report := by
    rw [Project.embeddings,Project.references_eq,List.filter_map,List.map_map]
    simp only [Function.comp_def,hnone]
    rfl
  rw [← hfound]
  unfold analyze
  by_cases hempty : p.embeddings = []
  · simp [hempty]
  · simp [hempty,hhas]

theorem eq_report_of_mem {p : Project} {f : Finding} (hf : f ∈ (analyze p).findings) :
    ∃ m, f = report m ∧ m.name ∉ p.fragments.values.map Fragment.id := by
  by_cases hhas : p.tracker.has .fragment = true
  · rw [analyze_eq hhas] at hf
    obtain ⟨m,hm,rfl⟩ := List.mem_map.mp hf
    exact ⟨m,rfl,of_decide_eq_true (List.mem_filter.mp hm).2⟩
  · have hmissing : p.tracker.has .fragment = false := Bool.not_eq_true _ ▸ hhas
    simp only [analyze,hmissing,Bool.not_false,if_true] at hf
    split_ifs at hf <;> cases hf

end FragmentReference

namespace FragmentUnused

def message (id : String) : String := "fragment " ++ Text.quoted id ++ " is never used"

theorem message_inj {a b : String} : message a = message b ↔ a = b := by
  show "fragment " ++ Text.quoted a ++ " is never used" =
    "fragment " ++ Text.quoted b ++ " is never used" ↔ a = b
  rw [String.append_left_inj,String.append_right_inj,Text.quoted_inj]

def report (f : Fragment) : Finding where
  ruleId := "fragment-unused"
  severity := .info
  message := message f.id
  path := f.body.path
  line := f.body.lineOfEntry "id" f.id

theorem analyze_eq {p : Project} (hhas : p.tracker.has .page = true) :
    analyze p = .found ((p.fragments.values.filter fun f =>
      f.id ∉ (p.mentions Component.fragmentRef?).map Mention.name).map report) := by
  have hnames : p.embeddings.map (·.target) =
      (p.mentions Component.fragmentRef?).map Mention.name := by
    rw [Project.embeddings,Project.references_eq,List.map_map]
    rfl
  unfold analyze
  by_cases hempty : p.fragments = ∅
  · simp [hempty]
  · simp only [Catalog.isEmpty_iff,hempty,if_false,hhas,Bool.not_true,Bool.false_eq_true,hnames]
    refine congrArg Analysis.found ?_
    have hfilter : (fun f : Fragment =>
        !((p.mentions Component.fragmentRef?).map Mention.name).contains f.id) =
        fun f => decide (f.id ∉ (p.mentions Component.fragmentRef?).map Mention.name) := by
      funext f
      rw [List.contains_eq_mem,decide_not]
    rw [hfilter]
    rfl

theorem eq_report_of_mem {p : Project} {g : Finding} (hg : g ∈ (analyze p).findings) :
    ∃ f ∈ p.fragments.values, g = report f := by
  by_cases hhas : p.tracker.has .page = true
  · rw [analyze_eq hhas] at hg
    obtain ⟨f,hf,rfl⟩ := List.mem_map.mp hg
    exact ⟨f,(List.mem_filter.mp hf).1,rfl⟩
  · have hmissing : p.tracker.has .page = false := Bool.not_eq_true _ ▸ hhas
    simp only [analyze,hmissing,Bool.not_false,if_true] at hg
    split_ifs at hg <;> cases hg

end FragmentUnused

namespace Project

/-- How the fragments of a project are checked, where `ms` are the mentions of fragments. -/
structure FragmentsChecked (p : Project) (ms : List Mention) : Prop where
  byId : (p.fragments.values.map Fragment.id).Pairwise (· < ·)
  /-- There is one report for each mention of a fragment that is not there, in order. -/
  unknown : p.fragments ≠ ∅ → FragmentReference.analyze p =
    .found ((ms.filter fun m => m.name ∉ p.fragments.values.map Fragment.id).map
      FragmentReference.report)
  /-- There is one report for each fragment that is not mentioned, by id. -/
  unused : p.pages ≠ ∅ → FragmentUnused.analyze p =
    .found ((p.fragments.values.filter fun f => f.id ∉ ms.map Mention.name).map
      FragmentUnused.report)
  /-- In each file a name is reported as often as it is mentioned there, unless it is known. -/
  resolved : p.fragments ≠ ∅ → ∀ path id,
    ((FragmentReference.analyze p).findings.countP fun f =>
        f.path = path ∧ f.message = FragmentReference.message id) =
      if id ∈ p.fragments.values.map Fragment.id then 0
      else ms.countP fun m => m.document.path = path ∧ m.name = id
  /-- Each fragment is mentioned or is reported, and only once. -/
  used : p.pages ≠ ∅ → ∀ f ∈ p.fragments.values,
    ((FragmentUnused.analyze p).findings.countP fun g => g.message = FragmentUnused.message f.id) =
      if f.id ∈ ms.map Mention.name then 0 else 1
  /-- No id is reported by both rules. -/
  apart : ∀ f ∈ (FragmentReference.analyze p).findings, ∀ g ∈ (FragmentUnused.analyze p).findings,
    ∀ id, ¬(f.message = FragmentReference.message id ∧ g.message = FragmentUnused.message id)

theorem countP_unknown (ms : List Mention) (ids : List String) (path id : String) :
    (((ms.filter fun m => m.name ∉ ids).map FragmentReference.report).countP fun f =>
        f.path = path ∧ f.message = FragmentReference.message id) =
      if id ∈ ids then 0 else ms.countP fun m => m.document.path = path ∧ m.name = id := by
  rw [List.countP_map,List.countP_filter]
  split_ifs with hid
  · rw [List.countP_eq_zero]
    intro m _
    simp only [Function.comp_def,FragmentReference.report,FragmentReference.message_inj]
    intro hm
    simp only [Bool.and_eq_true,decide_eq_true_eq] at hm
    obtain ⟨⟨-,rfl⟩,hnot⟩ := hm
    exact hnot hid
  · refine List.countP_congr fun m _ => ?_
    simp only [Function.comp_def,FragmentReference.report,FragmentReference.message_inj,
      Bool.and_eq_true,decide_eq_true_eq]
    constructor
    · rintro ⟨h,-⟩
      exact h
    · rintro ⟨hpath,rfl⟩
      exact ⟨⟨hpath,rfl⟩,hid⟩

theorem countP_unused {fs : List Fragment} (hids : (fs.map Fragment.id).Pairwise (· < ·))
    (names : List String) {f : Fragment} (hf : f ∈ fs) :
    (((fs.filter fun g => g.id ∉ names).map FragmentUnused.report).countP fun g =>
        g.message = FragmentUnused.message f.id) = if f.id ∈ names then 0 else 1 := by
  have hone : (fs.map Fragment.id).count f.id = 1 :=
    List.count_eq_one_of_mem (hids.imp ne_of_lt) (List.mem_map_of_mem hf)
  rw [List.countP_map,List.countP_filter]
  split_ifs with hname
  · rw [List.countP_eq_zero]
    intro g _ hg
    simp only [Function.comp_def,FragmentUnused.report,FragmentUnused.message_inj,
      Bool.and_eq_true,decide_eq_true_eq] at hg
    obtain ⟨hid,hnot⟩ := hg
    rw [hid] at hnot
    exact hnot hname
  · rw [← hone,List.count,List.countP_map]
    refine List.countP_congr fun g _ => ?_
    simp only [Function.comp_def,FragmentUnused.report,FragmentUnused.message_inj,
      Bool.and_eq_true,decide_eq_true_eq,beq_iff_eq]
    constructor
    · rintro ⟨h,-⟩
      exact h
    · intro h
      rw [h]
      exact ⟨rfl,hname⟩

/-- All pages and fragments of a batch taken together, each mention of a fragment is resolved or
reported once and each fragment is mentioned or reported once. -/
theorem load_checks_fragments (unit : AnalysisUnit) (files : List SourceFile) :
    ∃ ms, (load unit files).value.Enumerates (fun id c => c.Embeds id) ms ∧
      (load unit files).value.FragmentsChecked ms := by
  have htruth := load_truthful unit files
  generalize (load unit files).value = p at htruth ⊢
  have hfragment : p.fragments ≠ ∅ → p.tracker.has .fragment = true := by
    intro hne
    exact (htruth .fragment).mpr (Catalog.size_pos.mpr hne)
  have hpage : p.pages ≠ ∅ → p.tracker.has .page = true := by
    intro hne
    exact (htruth .page).mpr (Catalog.size_pos.mpr hne)
  refine ⟨p.mentions Component.fragmentRef?,
    p.enumerates fun c s => Component.fragmentRef?_eq_some,?_⟩
  constructor
  case byId => exact p.fragments.pairwise_name
  case unknown =>
    intro hne
    exact FragmentReference.analyze_eq (hfragment hne)
  case unused =>
    intro hne
    exact FragmentUnused.analyze_eq (hpage hne)
  case resolved =>
    intro hne path id
    rw [FragmentReference.analyze_eq (hfragment hne)]
    exact countP_unknown _ _ path id
  case used =>
    intro hne f hf
    rw [FragmentUnused.analyze_eq (hpage hne)]
    exact countP_unused p.fragments.pairwise_name _ hf
  case apart =>
    rintro f hf g hg id ⟨hunknown,hunused⟩
    obtain ⟨m,rfl,hnot⟩ := FragmentReference.eq_report_of_mem hf
    obtain ⟨fragment,hfragment,rfl⟩ := FragmentUnused.eq_report_of_mem hg
    -- both messages tell the id, which is unknown by the one and that of a fragment by the other
    have hname : m.name = id := FragmentReference.message_inj.mp hunknown
    have hid : fragment.id = id := FragmentUnused.message_inj.mp hunused
    rw [hname,← hid] at hnot
    exact hnot (List.mem_map_of_mem hfragment)

/-- A page that embeds a fragment, and twice one that is not there; the fragment embeds itself. -/
def embeddingFiles : List SourceFile :=
  [("h.page","\x7b\"id\":\"h\",\"components\":[\x7b\"children\":[\x7b\"type\":\"fragment\",\"ref\":\"a\"\x7d," ++
    "\x7b\"type\":\"fragment\",\"ref\":\"x\"\x7d]\x7d,\x7b\"type\":\"fragment\",\"ref\":\"x\"\x7d]\x7d"),
   ("a.fragment","\x7b\"id\":\"a\",\"components\":[\x7b\"type\":\"fragment\",\"ref\":\"a\"\x7d]\x7d"),
   ("b.fragment","\x7b\"id\":\"b\",\"components\":[\x7b\"type\":\"fragment\",\"ref\":7\x7d]\x7d")]

theorem load_checks_fragments_embedding :
    let p := (load .individualFiles embeddingFiles).value
    (FragmentReference.analyze p).findings.map (fun f => (f.message,f.path)) =
      [("unknown fragment \"x\"","h.page"),("unknown fragment \"x\"","h.page")] ∧
    (FragmentUnused.analyze p).findings.map (·.message) = ["fragment \"b\" is never used"] ∧
    ∃ ms, p.Enumerates (fun id c => c.Embeds id) ms ∧
      (ms.countP fun m => m.document.path = "h.page" ∧ m.name = "x") = 2 := by
  dsimp only
  obtain ⟨ms,hms,hchecked⟩ := load_checks_fragments .individualFiles embeddingFiles
  have heval : (load .individualFiles embeddingFiles).value.fragments.isEmpty = false ∧
      ((load .individualFiles embeddingFiles).value.fragment? "x").isSome = false ∧
      (FragmentReference.analyze (load .individualFiles embeddingFiles).value).findings.map
          (fun f => (f.message,f.path)) =
        [("unknown fragment \"x\"","h.page"),("unknown fragment \"x\"","h.page")] ∧
      (FragmentUnused.analyze (load .individualFiles embeddingFiles).value).findings.map (·.message) =
        ["fragment \"b\" is never used"] ∧
      ((FragmentReference.analyze (load .individualFiles embeddingFiles).value).findings.countP fun f =>
        f.path = "h.page" ∧ f.message = FragmentReference.message "x") = 2 := by
    decide +kernel
  generalize (load .individualFiles embeddingFiles).value = p at *
  obtain ⟨hne,hgone,hunknown,hunused,hcount⟩ := heval
  have hfragments : p.fragments ≠ ∅ := Catalog.isEmpty_eq_false.mp hne
  have hnot : "x" ∉ p.fragments.values.map Fragment.id := by
    rw [← p.isSome_fragment?]
    simp [hgone]
  have hreports := hchecked.resolved hfragments "h.page" "x"
  rw [if_neg hnot,hcount] at hreports
  exact ⟨hunknown,hunused,ms,hms,hreports.symm⟩

end Project
end AppLint
