import AppLint.Proofs.TextPieces
import AppLint.Rules.InsecureEndpoint

/-! The host of an endpoint: which part of an unencrypted URL it is, whatever stands around it, and that
cutting it out by bytes never cuts through a character. -/
namespace AppLint
namespace Text

theorem toLower_cases (c : Char) : c.toLower = c ∨ 65 ≤ c.toNat ∧ c.toNat ≤ 90 := by
  unfold Char.toLower
  split
  · rename_i h
    exact Or.inr h
  · exact Or.inl rfl

theorem plain_of_capital {c : Char} (h : 65 ≤ c.toNat ∧ c.toNat ≤ 90) :
    isBlank c = false ∧ c.utf8Size = 1 := by
  constructor
  · simp only [isBlank,Bool.or_eq_false_iff,Bool.and_eq_false_iff,decide_eq_false_iff_not,
      beq_eq_false_iff_ne]
    omega
  · have hval : c.val.toNat ≤ 127 := by
      show c.toNat ≤ 127
      omega
    exact Char.utf8Size_eq_one_iff.mpr hval

theorem size_cons (c : Char) (s : List Char) : size (c :: s) = c.utf8Size + size s := by
  simp [size]

theorem size_of_forall {s : List Char} (h : ∀ c ∈ s, c.utf8Size = 1) : size s = s.length := by
  induction s with
  | nil => rfl
  | cons c s ih =>
    have hrest := ih fun d hd => h d (List.mem_cons_of_mem _ hd)
    rw [size_cons,h c List.mem_cons_self,hrest,List.length_cons,Nat.add_comm]

theorem IsSlice.eq_append {s part : List Char} {stop : Nat} (h : IsSlice s 0 stop part) :
    ∃ after, s = part ++ after ∧ size part = stop := by
  obtain ⟨front,back,hs,hstop⟩ := String.Pos.Raw.isValid_iff_exists_append.mp h.stop_valid
  have hlist : s = front.toList ++ back.toList := by
    simpa using congrArg String.toList hs
  have hsize : size front.toList = stop := by
    simpa [size] using (congrArg String.Pos.Raw.byteIdx hstop).symm
  have hfront := isSlice_append [] front.toList back.toList
  rw [List.nil_append,← hlist,hsize] at hfront
  have hpart : part = front.toList :=
    String.ofList_injective (String.toByteArray_inj.mp (h.bytes.symm.trans hfront.bytes))
  exact ⟨back.toList,by rw [hpart,hlist],by rw [hpart,hsize]⟩

theorem trimEnd_append_concat {c : Char} (hc : isBlank c = false) (s t : List Char) :
    trimEnd (s ++ [c] ++ t) = s ++ [c] ++ trimEnd t := by
  simp only [trimEnd,List.reverse_append,List.dropWhile_append,List.reverse_singleton]
  cases ht : t.reverse.dropWhile isBlank with
  | nil => simp [hc]
  | cons d rest => simp

theorem trimEnd_isPrefix (s : List Char) : trimEnd s <+: s := by
  obtain ⟨b,-,hs⟩ := eq_append_trimEnd s
  exact ⟨b,hs.symm⟩

theorem takeWhile_isPrefix {p : Char → Bool} {s t : List Char} (h : s <+: t) :
    s.takeWhile p <+: t.takeWhile p := by
  obtain ⟨rest,rfl⟩ := h
  have hs : s.takeWhile p <+: s := List.takeWhile_prefix p
  rw [List.takeWhile_append]
  split_ifs
  · exact hs.trans (List.prefix_append s _)
  · exact List.prefix_rfl

theorem takeWhile_append_of_head {p : Char → Bool} {t : List Char}
    (ht : t.takeWhile p = []) (s : List Char) : (s ++ t).takeWhile p = s.takeWhile p := by
  have hs : s.takeWhile p <+: s := List.takeWhile_prefix p
  rw [List.takeWhile_append,ht,List.append_nil]
  split_ifs with hlength
  · exact (hs.eq_of_length hlength).symm
  · rfl

end Text

namespace InsecureEndpoint

/-- The characters that end the part of a URL with the host. -/
def IsDelimiter (c : Char) : Prop := c = '/' ∨ c = '?' ∨ c = '#'

instance : DecidablePred IsDelimiter :=
  fun c => inferInstanceAs (Decidable (c = '/' ∨ c = '?' ∨ c = '#'))

theorem endsAuthority_iff {c : Char} : endsAuthority c = true ↔ IsDelimiter c := by
  simp [endsAuthority,IsDelimiter,or_assoc]

structure IsHostPart (c : Char) : Prop where
  solid : Text.isBlank c = false
  inside : ¬IsDelimiter c
  noUser : c ≠ '@'

instance : DecidablePred IsHostPart := fun c =>
  decidable_of_iff (Text.isBlank c = false ∧ ¬IsDelimiter c ∧ c ≠ '@')
    ⟨fun ⟨hsolid,hinside,huser⟩ => ⟨hsolid,hinside,huser⟩,
      fun h => ⟨h.solid,h.inside,h.noUser⟩⟩

/-- Once white space is left out the URL begins with the protocol, in letters of any case. -/
def Unencrypted (url : String) : Prop :=
  ∃ protocol rest, Text.trim url.toList = protocol ++ rest ∧
    Text.lowerAscii protocol = "http://".toList

structure Surroundings where
  lead : List Char
  protocol : List Char
  user : List Char
  port : List Char
  tail : List Char
  trail : List Char
  blank_lead : Text.Blank lead
  lower_protocol : Text.lowerAscii protocol = "http://".toList
  user_end : user = [] ∨ ∃ name, user = name ++ ['@']
  user_inside : ∀ c ∈ user, ¬IsDelimiter c
  port_start : port = [] ∨ ∃ number, port = ':' :: number
  port_inside : ∀ c ∈ port, ¬IsDelimiter c ∧ c ≠ '@'
  tail_start : tail = [] ∨ ∃ c rest, tail = c :: rest ∧ IsDelimiter c
  blank_trail : Text.Blank trail

def hostWithin (rest : List Char) : List Char :=
  (Text.afterLast (· == '@') (rest.takeWhile fun c => !endsAuthority c)).takeWhile (· != ':')

theorem takeWhile_of_not_colon {host : List Char} (h : ':' ∉ host) :
    host.takeWhile (· != ':') = host := by
  rw [List.takeWhile_eq_self_iff]
  intro c hc
  rw [bne_iff_ne]
  rintro rfl
  exact h hc

theorem host?_of_trim {url : String} {protocol rest : List Char}
    (htrim : Text.trim url.toList = protocol ++ rest) (hlower : Text.lowerAscii protocol = scheme) :
    host? url = some (Text.lower (hostWithin rest)) := by
  have hlength : protocol.length = scheme.length := by
    rw [← hlower,Text.lowerAscii,List.length_map]
  rw [host?,htrim,List.take_left' hlength,List.drop_left' hlength]
  exact if_pos hlower

theorem host?_of_not_unencrypted {url : String} (h : ¬Unencrypted url) : host? url = none := by
  have hnot : ¬Text.lowerAscii ((Text.trim url.toList).take scheme.length) = scheme := by
    intro hlower
    exact h ⟨_,_,(List.take_append_drop scheme.length _).symm,hlower⟩
  rw [host?]
  exact if_neg hnot

theorem plain_of_mem_protocol {protocol : List Char} (h : Text.lowerAscii protocol = scheme)
    {c : Char} (hc : c ∈ protocol) : Text.isBlank c = false ∧ c.utf8Size = 1 := by
  have hmem : c.toLower ∈ scheme := h ▸ List.mem_map_of_mem hc
  have hscheme : (scheme.all fun d => !Text.isBlank d && d.utf8Size == 1) = true := by decide
  rcases Text.toLower_cases c with heq | hcapital
  · rw [heq] at hmem
    simpa using List.all_eq_true.mp hscheme c hmem
  · exact Text.plain_of_capital hcapital

theorem size_protocol {protocol : List Char} (h : Text.lowerAscii protocol = scheme) :
    Text.size protocol = 7 := by
  have hlength : (Text.lowerAscii protocol).length = 7 := by rw [h]; rfl
  rw [Text.lowerAscii,List.length_map] at hlength
  rw [Text.size_of_forall fun c hc => (plain_of_mem_protocol h hc).2,hlength]

/-- By bytes: where the first seven are whole characters and the protocol, the rest of the URL is a
slice as well; in all other cases there is no host. -/
def Sliced (url : String) : Prop :=
  (∃ protocol rest, Text.IsSlice (Text.trim url.toList) 0 7 protocol ∧
    Text.lowerAscii protocol = "http://".toList ∧
    Text.IsSlice (Text.trim url.toList) 7 (Text.size (Text.trim url.toList)) rest ∧
    host? url = some (Text.lower (hostWithin rest))) ∨
  (∀ protocol, Text.IsSlice (Text.trim url.toList) 0 7 protocol →
    Text.lowerAscii protocol ≠ "http://".toList) ∧ host? url = none

theorem sliced (url : String) : Sliced url := by
  by_cases h : Unencrypted url
  · obtain ⟨protocol,rest,htrim,hlower⟩ := h
    have hsize := size_protocol hlower
    have hfront := Text.isSlice_append [] protocol rest
    have hback := Text.isSlice_append protocol rest []
    rw [List.nil_append,hsize] at hfront
    rw [List.append_nil,hsize] at hback
    refine Or.inl ⟨protocol,rest,?_,hlower,?_,host?_of_trim htrim hlower⟩
    · rw [htrim]
      exact hfront
    · rw [htrim]
      exact hback
  · refine Or.inr ⟨fun protocol hslice hlower => ?_,host?_of_not_unencrypted h⟩
    obtain ⟨rest,htrim,-⟩ := hslice.eq_append
    exact h ⟨protocol,rest,htrim,hlower⟩

namespace Surroundings
variable (u : Surroundings)

def text (host : List Char) : List Char :=
  u.lead ++ u.protocol ++ u.user ++ host ++ u.port ++ u.tail ++ u.trail

def url (host : List Char) : String := String.ofList (u.text host)

variable {host : List Char} (hhost : ∀ c ∈ host, IsHostPart c)

theorem isBlank_protocol {c : Char} (hc : c ∈ u.protocol) : Text.isBlank c = false :=
  (plain_of_mem_protocol u.lower_protocol hc).1

theorem exists_protocol_cons : ∃ c rest, u.protocol = c :: rest := by
  have hlower := u.lower_protocol
  cases hp : u.protocol with
  | nil => simp [hp,Text.lowerAscii] at hlower
  | cons c rest => exact ⟨c,rest,rfl⟩

include hhost

/-- No white space stands right behind the host. -/
theorem exists_concat :
    ∃ init c, u.protocol ++ u.user ++ host = init ++ [c] ∧ Text.isBlank c = false := by
  -- the host may be empty, and the user as well: then the protocol stands there
  rcases List.eq_nil_or_concat host with rfl | ⟨init,c,rfl⟩
  · rcases u.user_end with huser | ⟨name,huser⟩
    · obtain ⟨c,rest,hp⟩ := u.exists_protocol_cons
      have hne : u.protocol ≠ [] := by simp [hp]
      refine ⟨u.protocol.dropLast,u.protocol.getLast hne,?_,?_⟩
      · rw [huser,List.append_nil,List.append_nil,List.dropLast_append_getLast hne]
      · exact u.isBlank_protocol (List.getLast_mem hne)
    · exact ⟨u.protocol ++ name,'@',by simp [huser],by decide⟩
  · refine ⟨u.protocol ++ u.user ++ init,c,by simp,?_⟩
    exact (hhost c (by simp)).solid

theorem trim_text : Text.trim (u.text host) =
    u.protocol ++ (u.user ++ host ++ Text.trimEnd (u.port ++ u.tail)) := by
  have hshape : u.text host =
      u.lead ++ (u.protocol ++ u.user ++ host ++ (u.port ++ u.tail)) ++ u.trail := by
    simp [text]
  obtain ⟨init,c,hconcat,hc⟩ := u.exists_concat hhost
  obtain ⟨first,rest,hprotocol⟩ := u.exists_protocol_cons
  have hfirst : Text.isBlank first = false := u.isBlank_protocol (by simp [hprotocol])
  have hstart : ∀ s, Text.trimStart (u.protocol ++ s) = u.protocol ++ s := by
    intro s
    rw [hprotocol,List.cons_append]
    exact Text.trimStart_cons hfirst _
  rw [hshape,Text.trim_append_right u.blank_trail,Text.trim_append_left u.blank_lead,Text.trim]
  rw [List.append_assoc,List.append_assoc,hstart,← List.append_assoc,← List.append_assoc,hconcat,
    Text.trimEnd_append_concat hc,← hconcat]
  simp

/-- What is left of the port behind the host, once white space at the end is gone. -/
theorem exists_port : ∃ port, port <+: u.port ∧
    (u.user ++ host ++ Text.trimEnd (u.port ++ u.tail)).takeWhile (fun c => !endsAuthority c) =
      u.user ++ (host ++ port) := by
  have hinside : ∀ {s : List Char}, (∀ c ∈ s, ¬IsDelimiter c) →
      ∀ c ∈ s, (!endsAuthority c) = true := by
    intro s hs c hc
    have hnot := hs c hc
    rw [← endsAuthority_iff] at hnot
    simpa using hnot
  have htail : u.tail.takeWhile (fun c => !endsAuthority c) = [] := by
    rcases u.tail_start with htail | ⟨c,rest,htail,hc⟩
    · rw [htail,List.takeWhile_nil]
    · rw [htail,List.takeWhile_cons_of_neg]
      simp [endsAuthority_iff.mpr hc]
  have hport : (u.port ++ u.tail).takeWhile (fun c => !endsAuthority c) = u.port := by
    rw [List.takeWhile_append_of_pos (hinside fun c hc => (u.port_inside c hc).1),htail,
      List.append_nil]
  -- white space at the end of the URL may be that of the port, so only a part of it is left
  refine ⟨(Text.trimEnd (u.port ++ u.tail)).takeWhile fun c => !endsAuthority c,?_,?_⟩
  · have hpre := Text.takeWhile_isPrefix (p := fun c => !endsAuthority c)
      (Text.trimEnd_isPrefix (u.port ++ u.tail))
    rwa [hport] at hpre
  · rw [List.append_assoc,List.takeWhile_append_of_pos (hinside u.user_inside),
      List.takeWhile_append_of_pos (hinside fun c hc => (hhost c hc).inside)]

/-- The host is the text up to its first colon, whatever stands around it. -/
theorem host?_url : host? (u.url host) = some (Text.lower (host.takeWhile (· != ':'))) := by
  have htrim : Text.trim (u.url host).toList =
      u.protocol ++ (u.user ++ host ++ Text.trimEnd (u.port ++ u.tail)) := by
    rw [url,String.toList_ofList]
    exact u.trim_text hhost
  obtain ⟨port,hport,hauthority⟩ := u.exists_port hhost
  have huser : u.user = [] ∨ ∃ name c, u.user = name ++ [c] ∧ (c == '@') = true := by
    rcases u.user_end with h | ⟨name,h⟩
    · exact Or.inl h
    · exact Or.inr ⟨name,'@',h,rfl⟩
  have hat : ∀ c ∈ host ++ port, (c == '@') = false := by
    intro c hc
    rcases List.mem_append.mp hc with hc | hc
    · simpa using (hhost c hc).noUser
    · simpa using (u.port_inside c (hport.subset hc)).2
  have hcolon : port.takeWhile (· != ':') = [] := by
    cases port with
    | nil => rfl
    | cons c rest =>
      rcases u.port_start with hnone | ⟨number,hsome⟩
      · rw [hnone] at hport
        simp at hport
      · rw [hsome,List.cons_prefix_cons] at hport
        simp [hport.1]
  rw [host?_of_trim htrim u.lower_protocol,hostWithin,hauthority,Text.afterLast_append hat huser,
    Text.takeWhile_append_of_head hcolon]

end Surroundings

end InsecureEndpoint
end AppLint
