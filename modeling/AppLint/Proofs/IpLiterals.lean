import AppLint.Proofs.AllowList

/-! Endpoints on IP literals. The brackets of a literal do not keep its colons from ending the host. -/
namespace AppLint

namespace Text

theorem length_lowerChar_pos (c : Char) : 0 < (lowerChar c).length := by
  unfold lowerChar
  dsimp only
  split_ifs <;> simp

theorem length_lowerChar {c : Char} (h : c.toNat ≠ 0x130) : (lowerChar c).length = 1 := by
  unfold lowerChar
  dsimp only
  split_ifs with hascii hdotted
  · rfl
  · exact absurd (beq_iff_eq.mp hdotted) h
  · rfl

theorem length_lowerAfter (before s : List Char) :
    (lowerAfter before s).length = (s.flatMap lowerChar).length := by
  induction s generalizing before with
  | nil => rfl
  | cons c s ih =>
    have himage : (if c.toNat == 0x3A3 then
          if casedNext before && !casedNext s then [Char.ofNat 0x3C2] else [Char.ofNat 0x3C3]
        else lowerChar c).length = (lowerChar c).length := by
      split_ifs with hsigma hfinal
      · rw [length_lowerChar (by simp [beq_iff_eq.mp hsigma]),List.length_singleton]
      · rw [length_lowerChar (by simp [beq_iff_eq.mp hsigma]),List.length_singleton]
      · rfl
    rw [lowerAfter,List.length_append,himage,ih,List.flatMap_cons,List.length_append]

theorem eq_nil_of_lower_append {s t : List Char} (h : lower (s ++ t) = lower s) : t = [] := by
  have hlength := congrArg List.length h
  simp only [lower,length_lowerAfter,List.flatMap_append,List.length_append] at hlength
  cases t with
  | nil => rfl
  | cons c t =>
    have hc := length_lowerChar_pos c
    rw [List.flatMap_cons,List.length_append] at hlength
    omega

end Text

namespace InsecureEndpoint

/-- An IP literal as it stands in a URL, without the brackets. -/
structure Literal where
  inner : List Char
  part : ∀ c ∈ inner, IsHostPart c

namespace Literal
variable (l : Literal)

def text : List Char := '[' :: (l.inner ++ [']'])

def cut : List Char := l.text.takeWhile (· != ':')

theorem isHostPart {c : Char} (hc : c ∈ l.text) : IsHostPart c := by
  rw [text,List.mem_cons,List.mem_append,List.mem_singleton] at hc
  rcases hc with rfl | hc | rfl
  · decide
  · exact l.part c hc
  · decide

theorem host?_url (u : Surroundings) : host? (u.url l.text) = some (Text.lower l.cut) :=
  u.host?_url fun _ hc => l.isHostPart hc

/-- Letter case or not, the cut literal is the whole one only where there is no colon. -/
theorem lower_text_eq_iff : Text.lower l.text = Text.lower l.cut ↔ ':' ∉ l.inner := by
  have hmem : ':' ∈ l.text ↔ ':' ∈ l.inner := by simp [text]
  rw [← hmem]
  constructor
  · intro h hcolon
    -- lower case never makes a text shorter, so nothing was cut off
    rw [← List.takeWhile_append_dropWhile (p := (· != ':')) (l := l.text),← cut] at h
    have hrest := List.dropWhile_eq_nil_iff.mp (Text.eq_nil_of_lower_append h)
    simpa using hrest ':' hcolon
  · intro h
    rw [cut,takeWhile_of_not_colon h]

end Literal

/-- Brackets do not keep a colon from ending the host: a literal passes by an entry for what it has
before its first colon, so by one for itself just if it has none. Literals that agree there are one
host. -/
theorem colon_ends_bracketed_host (l m : Literal) (u v : Surroundings) :
    (host? (u.url l.text) = host? (v.url m.text) ↔ Text.lower l.cut = Text.lower m.cut) ∧
    ∀ calls entries, InForce calls entries → ∀ (p : Project) (d : DataProviderDocument),
      p.dataProvider = some d → ∃ reports : DataProvider → Option Finding,
        ((BuiltinRule.insecureEndpoint defaultHosts).settledAll calls).analyze p =
          .found (d.providers.filterMap reports) ∧
        ∀ provider : DataProvider, provider.url = some (u.url l.text) →
          (reports provider =
            if ∃ entry ∈ entries, Text.lower entry.toList = Text.lower l.cut then none
            else some (finding d provider.id (u.url l.text))) ∧
          (entries = [String.ofList l.text] → (reports provider = none ↔ ':' ∉ l.inner)) := by
  refine ⟨?_,fun calls entries hforce p d hd => ⟨_,hforce.analyze_eq hd,fun provider hurl => ?_⟩⟩
  · rw [l.host?_url,m.host?_url,Option.some_inj]
  · have hcheck := check_of_host hurl (l.host?_url u) entries d
    refine ⟨hcheck,fun hentries => ?_⟩
    have hlisted : (∃ entry ∈ entries, Text.lower entry.toList = Text.lower l.cut) ↔
        ':' ∉ l.inner := by
      simpa [hentries] using l.lower_text_eq_iff
    rw [hcheck,← hlisted]
    split_ifs with h <;> simp [h]

def Literal.loopback : Literal := ⟨"::1".toList,Text.forall_of_all (by decide)⟩

def Literal.unicast : Literal := ⟨"::2".toList,Text.forall_of_all (by decide)⟩

def loopbackFile : String × String :=
  ("d.dataprovider",
    "\x7b\"providers\":[\x7b\"id\":\"v6\",\"url\":\" HTTP://intra@[::1]:80/@intra\"\x7d]\x7d")

theorem colon_ends_bracketed_host_loopback :
    let calls := [[("allowed_hosts",Json.Value.array [.string "[::1]"])]]
    let p := (Project.load .individualFiles [loopbackFile]).value
    host? "http://[::1]" = host? "http://[::2]" ∧ InForce calls ["[::1]"] ∧
      ∃ d, p.dataProvider = some d ∧
        ((BuiltinRule.insecureEndpoint defaultHosts).settledAll calls).analyze p =
          .found [finding d "v6" " HTTP://intra@[::1]:80/@intra"] := by
  dsimp only
  have hproviders : (Project.load .individualFiles [loopbackFile]).value.dataProvider.map
      DataProviderDocument.providers =
        some [⟨"v6",some (Surroundings.spoofing.url Literal.loopback.text),none⟩] := by
    decide +kernel
  generalize (Project.load .individualFiles [loopbackFile]).value = p at *
  have hforce : InForce [[("allowed_hosts",Json.Value.array [.string "[::1]"])]] ["[::1]"] :=
    @InForce.listed [] _ _ ⟨by simp [key],rfl⟩
  obtain ⟨d,hd,hlist⟩ := Option.map_eq_some_iff.mp hproviders
  obtain ⟨hsame,-⟩ := colon_ends_bracketed_host .loopback .unicast .plain .plain
  obtain ⟨reports,hanalyze,hreports⟩ :=
    (colon_ends_bracketed_host .loopback .loopback .spoofing .spoofing).2 _ _ hforce p d hd
  have hreported := (hreports ⟨"v6",_,none⟩ rfl).1
  rw [if_neg (by decide)] at hreported
  refine ⟨hsame.mpr (by decide),hforce,d,hd,?_⟩
  rw [hanalyze,hlist,List.filterMap_cons_some hreported]
  rfl

/-- An IPv6 literal is reported with itself on the list, and another one is the same host. -/
theorem listed_literal_is_reported :
    let p := (Project.load .individualFiles [("app.dataprovider",
      "\x7b\"providers\":[\x7b\"id\":\"v6\",\"url\":\"http://[::1]:8080/x\"\x7d]\x7d")]).value
    let rule := (BuiltinRule.insecureEndpoint defaultHosts).settled
      [("allowed_hosts",.array [.string "[::1]"])]
    (rule.analyze p).findings.map Finding.message =
      ["provider \"v6\" uses an unencrypted endpoint http://[::1]:8080/x"] ∧
    host? "http://[::1]:8080/x" = host? "http://[::2]:8080/x" := by
  decide +kernel

end InsecureEndpoint
end AppLint
