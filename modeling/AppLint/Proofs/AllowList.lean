import AppLint.Proofs.EndpointHost
import AppLint.Proofs.RuleSettings

/-! The hosts that need no encryption: which list of them is in force after calls with settings, and
that exactly the endpoints on other hosts are reported. -/
namespace AppLint

namespace Text

theorem forall_of_all {p : Char → Prop} [DecidablePred p] {s : List Char}
    (h : (s.all fun c => decide (p c)) = true) : ∀ c ∈ s, p c := by
  simpa using h

end Text

namespace InsecureEndpoint

structure Lists (settings : Settings) (entries : List String) : Prop where
  only : ∀ e ∈ settings, e.1 = key
  listed : Keyed.get? key settings = some (.array (entries.map .string))

def lowered (entries : List String) : List String :=
  entries.map fun entry => String.ofList (Text.lower entry.toList)

theorem configure_eq_ok {hosts hosts' : List String} {settings : Settings} :
    configure settings hosts = (.ok (),hosts') ↔
      (∃ entries, Lists settings entries ∧ hosts' = lowered entries) ∨
        (∀ e ∈ settings, e.1 = key) ∧ Keyed.get? key settings = none ∧ hosts' = hosts := by
  refine Configuring.only_strings?_eq_ok.trans ?_
  constructor
  · rintro ⟨honly,⟨hget,hhosts⟩ | ⟨entries,hget,hhosts⟩⟩
    · cases hhosts
      exact Or.inr ⟨honly,hget,rfl⟩
    · cases hhosts
      exact Or.inl ⟨entries,⟨honly,hget⟩,rfl⟩
  · rintro (⟨entries,⟨honly,hget⟩,rfl⟩ | ⟨honly,hget,rfl⟩)
    · exact ⟨honly,Or.inr ⟨entries,hget,rfl⟩⟩
    · exact ⟨honly,Or.inl ⟨hget,rfl⟩⟩

/-- The list of hosts after calls with settings: that of the last call with a list, else the default. -/
inductive InForce : List Settings → List String → Prop
  | default : InForce [] defaultHosts
  | listed {calls : List Settings} {settings : Settings} {entries : List String}
      (h : Lists settings entries) : InForce (calls ++ [settings]) entries
  | kept {calls : List Settings} {settings : Settings} {entries : List String}
      (hcalls : InForce calls entries) (h : ∀ others, ¬Lists settings others) :
      InForce (calls ++ [settings]) entries

theorem exists_inForce (calls : List Settings) : ∃ entries, InForce calls entries := by
  induction calls using List.reverseRecOn with
  | nil => exact ⟨defaultHosts,.default⟩
  | append_singleton calls settings ih =>
    by_cases h : ∃ entries, Lists settings entries
    · obtain ⟨entries,hentries⟩ := h
      exact ⟨entries,.listed hentries⟩
    · obtain ⟨entries,hentries⟩ := ih
      exact ⟨entries,.kept hentries (not_exists.mp h)⟩

theorem after_of_lists {settings : Settings} {entries : List String} (h : Lists settings entries)
    (hosts : List String) : Configuring.after configure hosts settings = lowered entries := by
  have hcall : configure settings hosts = (.ok (),lowered entries) :=
    configure_eq_ok.mpr (Or.inl ⟨entries,h,rfl⟩)
  rw [Configuring.after,hcall]

theorem after_of_not_lists {settings : Settings} (h : ∀ entries, ¬Lists settings entries)
    (hosts : List String) : Configuring.after configure hosts settings = hosts := by
  unfold Configuring.after
  rcases hcall : configure settings hosts with ⟨e | ⟨⟩,hosts'⟩
  · exact atomic_configure settings hosts e hosts' hcall
  · rcases configure_eq_ok.mp hcall with ⟨entries,hentries,-⟩ | ⟨-,-,hsame⟩
    · exact absurd hentries (h entries)
    · exact hsame

theorem InForce.settledAll {calls : List Settings} {entries : List String}
    (h : InForce calls entries) :
    (BuiltinRule.insecureEndpoint defaultHosts).settledAll calls =
      .insecureEndpoint (lowered entries) := by
  rw [BuiltinRule.settledAll_insecureEndpoint]
  refine congrArg BuiltinRule.insecureEndpoint ?_
  induction h with
  | default => decide
  | listed hlists =>
    rw [List.foldl_append,List.foldl_cons,List.foldl_nil]
    exact after_of_lists hlists _
  | kept _ hnot ih =>
    rw [List.foldl_append,ih,List.foldl_cons,List.foldl_nil]
    exact after_of_not_lists hnot _

theorem contains_lowered (entries : List String) (host : List Char) :
    (lowered entries).contains (String.ofList host) =
      decide (∃ entry ∈ entries, Text.lower entry.toList = host) := by
  rw [List.contains_eq_mem]
  refine decide_eq_decide.mpr (List.mem_map.trans ?_)
  refine exists_congr fun entry => and_congr_right fun _ => ?_
  exact ⟨fun h => String.ofList_injective h,fun h => by rw [h]⟩

theorem check_of_host {provider : DataProvider} {url : String} {host : List Char}
    (hurl : provider.url = some url) (hhost : host? url = some host) (entries : List String)
    (d : DataProviderDocument) :
    check (lowered entries) d provider =
      if ∃ entry ∈ entries, Text.lower entry.toList = host then none
      else some (finding d provider.id url) := by
  simp only [check,hurl,isInsecure,hhost,contains_lowered]
  by_cases h : ∃ entry ∈ entries, Text.lower entry.toList = host <;> simp [h]

theorem InForce.analyze_eq {calls : List Settings} {entries : List String} (h : InForce calls entries)
    {p : Project} {d : DataProviderDocument} (hd : p.dataProvider = some d) :
    ((BuiltinRule.insecureEndpoint defaultHosts).settledAll calls).analyze p =
      .found (d.providers.filterMap (check (lowered entries) d)) := by
  rw [h.settledAll]
  show analyze (lowered entries) p = _
  rw [analyze,hd]

/-- What is reported of each provider of a document, where a list of hosts is in force. -/
structure Screens (entries : List String) (d : DataProviderDocument)
    (reports : DataProvider → Option Finding) : Prop where
  /-- Just the host counts, not what stands around it. -/
  addressed : ∀ (provider : DataProvider) (u : Surroundings) (host : List Char),
    (∀ c ∈ host, IsHostPart c ∧ c ≠ ':') → provider.url = some (u.url host) →
      reports provider =
        if ∃ entry ∈ entries, Text.lower entry.toList = Text.lower host then none
        else some (finding d provider.id (u.url host))
  unaddressed : ∀ provider : DataProvider, provider.url = none → reports provider = none
  other : ∀ (provider : DataProvider) (url : String), provider.url = some url →
    ¬Unencrypted url → reports provider = none

theorem screens_check (entries : List String) (d : DataProviderDocument) :
    Screens entries d (check (lowered entries) d) where
  addressed := by
    intro provider u host hhost hurl
    have hcolon : ':' ∉ host := fun hc => (hhost ':' hc).2 rfl
    refine check_of_host hurl ?_ entries d
    rw [u.host?_url fun c hc => (hhost c hc).1,takeWhile_of_not_colon hcolon]
  unaddressed := by
    intro provider hurl
    simp only [check,hurl]
  other := by
    intro provider url hurl hnot
    simp [check,hurl,isInsecure,host?_of_not_unencrypted hnot]

/-- Whatever calls with settings were made, an unencrypted endpoint passes just if its host is on the
list in force. What is reported stands in the order of the providers. -/
theorem only_listed_hosts_pass (calls : List Settings) :
    (∃ entries, InForce calls entries) ∧
    (∀ entries, InForce calls entries → ∀ (p : Project) (d : DataProviderDocument),
      p.dataProvider = some d → ∃ reports, Screens entries d reports ∧
        ((BuiltinRule.insecureEndpoint defaultHosts).settledAll calls).analyze p =
          .found (d.providers.filterMap reports)) ∧
    ∀ url, Sliced url := by
  refine ⟨exists_inForce calls,fun entries hforce p d hd => ?_,sliced⟩
  exact ⟨check (lowered entries) d,screens_check entries d,hforce.analyze_eq hd⟩

def Surroundings.spoofing : Surroundings where
  lead := [' ']
  protocol := "HTTP://".toList
  user := "intra@".toList
  port := ":80".toList
  tail := "/@intra".toList
  trail := []
  blank_lead := Text.forall_of_all (by decide)
  lower_protocol := by decide
  user_end := Or.inr ⟨"intra".toList,by decide⟩
  user_inside := Text.forall_of_all (by decide)
  port_start := Or.inr ⟨"80".toList,by decide⟩
  port_inside := Text.forall_of_all (by decide)
  tail_start := Or.inr ⟨'/',"@intra".toList,by decide,by decide⟩
  blank_trail := Text.forall_of_all (by decide)

def Surroundings.plain : Surroundings where
  lead := []
  protocol := "http://".toList
  user := []
  port := []
  tail := []
  trail := []
  blank_lead := Text.forall_of_all (by decide)
  lower_protocol := by decide
  user_end := Or.inl rfl
  user_inside := Text.forall_of_all (by decide)
  port_start := Or.inl rfl
  port_inside := Text.forall_of_all (by decide)
  tail_start := Or.inl rfl
  blank_trail := Text.forall_of_all (by decide)

def spoofedFile : String × String :=
  ("d.dataprovider","\x7b\"providers\":[" ++
    "\x7b\"id\":\"a\",\"url\":\" HTTP://intra@evil:80/@intra\"\x7d," ++
    "\x7b\"id\":\"b\",\"url\":\"http://Intra\"\x7d]\x7d")

/-- The second call is refused, so the list of the first one stays in force. -/
theorem only_listed_hosts_pass_spoofed :
    let calls := [[("allowed_hosts",Json.Value.array [.string "INTRA"])],[("allowed_hosts",.null)]]
    let p := (Project.load .individualFiles [spoofedFile]).value
    InForce calls ["INTRA"] ∧ ∃ d, p.dataProvider = some d ∧
      ((BuiltinRule.insecureEndpoint defaultHosts).settledAll calls).analyze p =
        .found [finding d "a" " HTTP://intra@evil:80/@intra"] := by
  dsimp only
  have hproviders : (Project.load .individualFiles [spoofedFile]).value.dataProvider.map
      DataProviderDocument.providers =
        some [⟨"a",some (Surroundings.spoofing.url "evil".toList),none⟩,
          ⟨"b",some (Surroundings.plain.url "Intra".toList),none⟩] := by decide +kernel
  generalize (Project.load .individualFiles [spoofedFile]).value = p at *
  have hforce : InForce [[("allowed_hosts",Json.Value.array [.string "INTRA"])],
      [("allowed_hosts",.null)]] ["INTRA"] := by
    refine @InForce.kept [_] _ _ (@InForce.listed [] _ _ ⟨?_,?_⟩) ?_
    · simp [key]
    · rfl
    · rintro others ⟨-,hlisted⟩
      cases hlisted
  obtain ⟨d,hd,hlist⟩ := Option.map_eq_some_iff.mp hproviders
  obtain ⟨reports,hscreens,hanalyze⟩ := (only_listed_hosts_pass _).2.1 _ hforce p d hd
  have hspoofed := hscreens.addressed ⟨"a",_,none⟩ .spoofing "evil".toList
    (Text.forall_of_all (by decide)) rfl
  have hown := hscreens.addressed ⟨"b",_,none⟩ .plain "Intra".toList
    (Text.forall_of_all (by decide)) rfl
  rw [if_neg (by decide)] at hspoofed
  rw [if_pos (by decide)] at hown
  refine ⟨hforce,d,hd,?_⟩
  rw [hanalyze,hlist,List.filterMap_cons_some hspoofed,List.filterMap_cons_none hown]
  rfl

end InsecureEndpoint
end AppLint
