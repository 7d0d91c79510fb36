import Mathlib.Data.List.Infix
import Mathlib.Data.List.TakeWhile
import TrafficReplay.Config.Target
import TrafficReplay.Proofs.Text.Cut

namespace TrafficReplay.Target

theorem withoutScheme_scheme (rest : List Char) : withoutScheme (scheme ++ rest) = rest := by
  have cut : scheme.isPrefixOf? (scheme ++ rest) = some rest :=
    List.isPrefixOf?_eq_some_iff_append_eq.mpr rfl
  rw [withoutScheme, cut, Option.getD_some]

theorem withoutScheme_bare {target : List Char} (bare : ¬scheme <+: target) :
    withoutScheme target = target := by
  cases cut : scheme.isPrefixOf? target with
  | none => rw [withoutScheme, cut, Option.getD_none]
  | some rest => exact absurd ⟨rest, List.isPrefixOf?_eq_some_iff_append_eq.mp cut⟩ bare

theorem withoutScheme_cases (target : List Char) :
    target = scheme ++ withoutScheme target ∨
      withoutScheme target = target ∧ ¬scheme <+: target := by
  by_cases schemed : scheme <+: target
  · obtain ⟨rest, rfl⟩ := schemed
    exact .inl (by rw [withoutScheme_scheme])
  · exact .inr ⟨withoutScheme_bare schemed, schemed⟩

theorem endsAuthority_eq_false {c : Char} : endsAuthority c = false ↔ c ≠ '/' ∧ c ≠ '?' := by
  simp only [endsAuthority, Bool.or_eq_false_iff, decide_eq_false_iff_not, ne_eq]

theorem goes_on {text : List Char} (inside : ∀ c ∈ text, endsAuthority c = false) :
    ∀ c ∈ text, (!endsAuthority c) = true := by
  intro c member
  rw [inside c member]
  rfl

/-- No `@` stands before the slashes of the scheme. -/
theorem scheme_not_isPrefix (info rest : List Char) (inside : ∀ c ∈ info, endsAuthority c = false) :
    ¬scheme <+: info ++ '@' :: rest := by
  rintro ⟨more, whole⟩
  have first := congrArg (List.takeWhile fun c => !endsAuthority c) whole
  rw [List.takeWhile_append_of_pos (goes_on inside)] at first
  have name : (scheme ++ more).takeWhile (fun c => !endsAuthority c) =
      ['m', 'o', 'n', 'g', 'o', 'd', 'b', ':'] := rfl
  have at_sign : '@' ∈ ['m', 'o', 'n', 'g', 'o', 'd', 'b', ':'] := by
    rw [← name, first]
    simp [endsAuthority]
  exact absurd at_sign (by decide)

theorem authority_append_tail (target : List Char) :
    authority target ++ tail target = withoutScheme target := List.takeWhile_append_dropWhile

theorem authority_inside {target : List Char} {c : Char} (member : c ∈ authority target) :
    endsAuthority c = false := by
  have kept := List.mem_takeWhile_imp member
  rwa [Bool.not_eq_true'] at kept

theorem tail_outside (target : List Char) : ∀ c ∈ (tail target).head?, endsAuthority c = true := by
  intro c first
  have stops := List.head?_dropWhile_not (fun c => !endsAuthority c) (withoutScheme target)
  rw [← tail, Option.mem_def.mp first] at stops
  simpa using stops

theorem authority_cases (target : List Char) :
    userInfo? target = none ∧ authority target = hosts target ∧ '@' ∉ hosts target ∨
      ∃ info, userInfo? target = some info ∧ authority target = info ++ '@' :: hosts target ∧
        '@' ∉ hosts target := by
  have absent {text : List Char} (plain : ∀ c ∈ text, decide (c = '@') = false) : '@' ∉ text :=
    fun member => of_decide_eq_false (plain '@' member) rfl
  rcases Text.cutLast?_cases (· = '@') (authority target) with
    ⟨uncut, plain⟩ | ⟨info, c, rest, cut, cuts, plain, split⟩
  · have whole : hosts target = authority target := by simp [hosts, uncut]
    rw [whole]
    exact .inl ⟨by rw [userInfo?, uncut, Option.map_none], rfl, absent plain⟩
  · have after : hosts target = rest := by simp [hosts, cut]
    rw [after]
    obtain rfl := of_decide_eq_true cuts
    exact .inr ⟨info, by rw [userInfo?, cut, Option.map_some], split, absent plain⟩

theorem hosts_inside {target : List Char} {c : Char} (member : c ∈ hosts target) :
    c ≠ '@' ∧ endsAuthority c = false := by
  rcases authority_cases target with ⟨_, whole, absent⟩ | ⟨info, _, whole, absent⟩
  · exact ⟨ne_of_mem_of_not_mem member absent, authority_inside (whole ▸ member)⟩
  · have inside : c ∈ authority target := by simp [whole, member]
    exact ⟨ne_of_mem_of_not_mem member absent, authority_inside inside⟩

structure Parts where
  schemed : Bool
  info? : Option (List Char)
  hosts : List Char
  tail : List Char
  info_inside : ∀ info, info? = some info → ∀ c ∈ info, endsAuthority c = false
  hosts_inside : ∀ c ∈ hosts, c ≠ '@' ∧ endsAuthority c = false
  tail_outside : ∀ c ∈ tail.head?, endsAuthority c = true
  bare : schemed = false → info? = none → ¬scheme <+: hosts ++ tail

namespace Parts

def authority (parts : Parts) : List Char :=
  match parts.info? with
  | some info => info ++ '@' :: parts.hosts
  | none => parts.hosts

def chars (parts : Parts) : List Char :=
  (if parts.schemed then scheme else []) ++ parts.authority ++ parts.tail

def text (parts : Parts) : String := String.ofList parts.chars

theorem text_of_schemed {parts : Parts} (schemed : parts.schemed = true) :
    parts.text = "mongodb://" ++ String.ofList (parts.authority ++ parts.tail) := by
  have front : "mongodb://".toList = scheme := rfl
  apply String.toList_injective
  rw [text, String.toList_append, front, String.toList_ofList, String.toList_ofList, chars,
    if_pos schemed, List.append_assoc]

theorem text_of_info {parts : Parts} {info : List Char} (found : parts.info? = some info) :
    parts.text = (if parts.schemed = true then "mongodb://" else "") ++ String.ofList info ++ "@" ++
      String.ofList parts.hosts ++ String.ofList parts.tail := by
  have front : (if parts.schemed = true then "mongodb://" else "") =
      String.ofList (if parts.schemed = true then scheme else []) := by
    split
    · exact String.ofList_toList.symm
    · rfl
  have sign : "@" = String.ofList ['@'] := rfl
  rw [front, sign]
  simp only [← String.ofList_append]
  rw [text, chars, authority, found]
  simp only [List.append_assoc, List.cons_append, List.nil_append]

theorem authority_inside (parts : Parts) : ∀ c ∈ parts.authority, endsAuthority c = false := by
  intro c member
  unfold authority at member
  split at member
  · rename_i info found
    rcases List.mem_append.mp member with inside | inside
    · exact parts.info_inside info found c inside
    · rcases List.mem_cons.mp inside with rfl | inside
      · rfl
      · exact (parts.hosts_inside c inside).2
  · exact (parts.hosts_inside c member).2

theorem withoutScheme_chars (parts : Parts) :
    withoutScheme parts.chars = parts.authority ++ parts.tail := by
  unfold chars
  cases schemed : parts.schemed with
  | true => rw [if_pos rfl, List.append_assoc, withoutScheme_scheme]
  | false =>
    rw [if_neg Bool.false_ne_true, List.nil_append]
    apply withoutScheme_bare
    unfold authority
    split
    · rename_i info found
      rw [List.append_assoc, List.cons_append]
      exact scheme_not_isPrefix info _ (parts.info_inside info found)
    · rename_i absent
      exact parts.bare schemed absent

theorem authority_chars (parts : Parts) : Target.authority parts.chars = parts.authority := by
  rw [Target.authority, withoutScheme_chars, List.takeWhile_append_of_pos (goes_on parts.authority_inside)]
  cases tail : parts.tail with
  | nil => rw [List.takeWhile_nil, List.append_nil]
  | cons c rest =>
    have ends : endsAuthority c = true := parts.tail_outside c (by rw [tail]; rfl)
    rw [List.takeWhile_cons_of_neg (by simp [ends]), List.append_nil]

theorem tail_chars (parts : Parts) : Target.tail parts.chars = parts.tail := by
  rw [Target.tail, withoutScheme_chars, List.dropWhile_append_of_pos (goes_on parts.authority_inside)]
  apply Text.dropWhile_of_head?
  intro c first
  rw [parts.tail_outside c first]
  rfl

theorem cutLast?_authority (parts : Parts) :
    Text.cutLast? (· = '@') parts.authority = parts.info?.map fun info => (info, parts.hosts) := by
  have plain : ∀ c ∈ parts.hosts, decide (c = '@') = false := by
    intro c member
    exact decide_eq_false (parts.hosts_inside c member).1
  unfold authority
  split
  · rename_i info found
    rw [Text.cutLast?_append (decide_eq_true rfl) plain, found, Option.map_some]
  · rename_i absent
    rw [Text.cutLast?_eq_none plain, absent, Option.map_none]

theorem userInfo?_chars (parts : Parts) : userInfo? parts.chars = parts.info? := by
  rw [userInfo?, authority_chars, cutLast?_authority]
  cases parts.info? <;> rfl

theorem hosts_chars (parts : Parts) : Target.hosts parts.chars = parts.hosts := by
  unfold Target.hosts
  rw [authority_chars, cutLast?_authority]
  cases found : parts.info? with
  | some info => rfl
  | none => simp only [Option.map_none, authority, found]

def ofTarget (target : String) : Parts where
  schemed := scheme.isPrefixOf target.toList
  info? := userInfo? target.toList
  hosts := Target.hosts target.toList
  tail := Target.tail target.toList
  info_inside := by
    intro info found c member
    rcases authority_cases target.toList with ⟨absent, _⟩ | ⟨other, same, whole, _⟩
    · rw [absent] at found
      cases found
    · obtain rfl := Option.some.inj (same.symm.trans found)
      have inside : c ∈ Target.authority target.toList := by simp [whole, member]
      exact Target.authority_inside inside
  hosts_inside _ member := Target.hosts_inside member
  tail_outside := Target.tail_outside target.toList
  bare := by
    intro unschemed absent schemed
    rcases authority_cases target.toList with ⟨_, whole, _⟩ | ⟨info, found, _⟩
    · rcases withoutScheme_cases target.toList with named | ⟨same, bare⟩
      · rw [named, List.isPrefixOf_iff_prefix.mpr (List.prefix_append ..)] at unschemed
        cases unschemed
      · rw [← whole, authority_append_tail, same] at schemed
        exact bare schemed
    · rw [found] at absent
      cases absent

theorem authority_ofTarget (target : String) :
    (ofTarget target).authority = Target.authority target.toList := by
  rcases authority_cases target.toList with ⟨absent, whole, _⟩ | ⟨info, found, whole, _⟩
  · simp only [authority, ofTarget, absent, whole]
  · simp only [authority, ofTarget, found, whole]

@[simp] theorem text_ofTarget (target : String) : (ofTarget target).text = target := by
  have rest : (ofTarget target).authority ++ (ofTarget target).tail =
      withoutScheme target.toList := by
    rw [authority_ofTarget]
    exact authority_append_tail target.toList
  have whole : (ofTarget target).chars = target.toList := by
    rw [chars, List.append_assoc, rest]
    unfold ofTarget
    dsimp only
    rcases withoutScheme_cases target.toList with named | ⟨same, bare⟩
    · rw [if_pos (List.isPrefixOf_iff_prefix.mpr ⟨_, named.symm⟩), ← named]
    · rw [if_neg (mt List.isPrefixOf_iff_prefix.mp bare), same, List.nil_append]
  rw [text, whole, String.ofList_toList]

def withInfo (parts : Parts) (info : List Char) (inside : ∀ c ∈ info, endsAuthority c = false) :
    Parts :=
  { parts with
    info? := some info
    info_inside := fun _ found => Option.some.inj found ▸ inside
    bare := nofun }

def withHosts (parts : Parts) (hosts : List Char)
    (inside : ∀ c ∈ hosts, c ≠ '@' ∧ endsAuthority c = false) (named : parts.info? ≠ none) : Parts :=
  { parts with
    hosts := hosts
    hosts_inside := inside
    bare := fun _ absent => absurd absent named }

end Parts

theorem address_congr {target other : String} (same : hosts target.toList = hosts other.toList) :
    address target = address other := by
  unfold address firstHost
  rw [same]

theorem credentials_congr {target other : String}
    (info : userInfo? target.toList = userInfo? other.toList)
    (rest : tail target.toList = tail other.toList) : credentials target = credentials other := by
  unfold credentials
  rw [info, rest]

theorem address_withInfo (parts : Parts) {info : List Char}
    (inside : ∀ c ∈ info, endsAuthority c = false) :
    address (parts.withInfo info inside).text = address parts.text := by
  apply address_congr
  simp only [Parts.text, String.toList_ofList, Parts.hosts_chars]
  rfl

theorem credentials_withHosts (parts : Parts) {hosts : List Char}
    (inside : ∀ c ∈ hosts, c ≠ '@' ∧ endsAuthority c = false) (named : parts.info? ≠ none) :
    credentials (parts.withHosts hosts inside named).text = credentials parts.text := by
  apply credentials_congr
  · simp only [Parts.text, String.toList_ofList, Parts.userInfo?_chars]
    rfl
  · simp only [Parts.text, String.toList_ofList, Parts.tail_chars]
    rfl

end TrafficReplay.Target
