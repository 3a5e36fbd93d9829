import MimeMail.Proofs.Text.Cut
import MimeMail.Proofs.Text.Digit
import MimeMail.Sender.Config

namespace MimeMail.Sender

open Text

def beforeColon (host : String) : List Char :=
  host.toList.takeWhile (· != ':')

def behindColon? (host : String) : Option (List Char) :=
  (host.toList.dropWhile (· != ':')).tail?

/-- The port that the text behind a colon gives. -/
inductive Gives : Option (List Char) → Nat → Prop
  | none : Gives none 25
  | empty : Gives (some []) 25
  | number {digits : List Char} {port : Nat} :
      IsDecimal digits port → 1 ≤ port → port ≤ 65535 → Gives (some digits) port
  | zero {digits : List Char} : IsDecimal digits 0 → Gives (some digits) 25

section Host

variable {digits : List Char} {n : Nat}

theorem drop_beforeColon (host : String) :
    host.toList.drop ((beforeColon host).length + 1) = (behindColon? host).getD [] := by
  have hdrop : host.toList.drop (beforeColon host).length = host.toList.dropWhile (· != ':') := by
    conv_lhs =>
      rw [← List.takeWhile_append_dropWhile (p := (· != ':')) (l := host.toList)]
    exact List.drop_left
  rw [← List.tail_drop, hdrop, behindColon?]
  cases host.toList.dropWhile (· != ':') <;> rfl

theorem portNumber?_eq_some :
    portNumber? digits = some n ↔ (digits = [] ∧ n = 0) ∨ IsDecimal digits n ∧ n ≤ 65535 := by
  by_cases hnil : digits = []
  · subst hnil
    have hnone : ¬ IsDecimal [] n := fun h ↦ h.ne_nil rfl
    simp [portNumber?, hnone, eq_comm]
  · rw [portNumber?, if_neg (by simpa using hnil)]
    by_cases hdigits : ∀ c ∈ digits, c.isDigit = true
    · have hvalue := isDecimal_of_isDigit hnil hdigits
      rw [if_pos (List.all_eq_true.mpr hdigits), digitsValue?_of_isDigit hnil hdigits,
        Option.bind_some]
      constructor
      · intro h
        split at h
        · rename_i hle
          obtain rfl := Option.some.inj h
          exact .inr ⟨hvalue, hle⟩
        · cases h
      · rintro (⟨rfl, -⟩ | ⟨h, hle⟩)
        · exact absurd rfl hnil
        · rw [hvalue.eq h]
          exact if_pos hle
    · rw [if_neg (by simpa using hdigits)]
      constructor
      · intro h
        cases h
      · rintro (⟨rfl, -⟩ | ⟨h, -⟩)
        · exact absurd rfl hnil
        · exact absurd h.isDigit hdigits

theorem gives_iff {behind? : Option (List Char)} {port : Nat} :
    Gives behind? port ↔
      ∃ n, portNumber? (behind?.getD []) = some n ∧ port = if n = 0 then defaultPort else n := by
  simp only [portNumber?_eq_some]
  constructor
  · rintro (_ | _ | ⟨hdigits, hpos, hle⟩ | hdigits)
    · exact ⟨0, .inl ⟨rfl, rfl⟩, rfl⟩
    · exact ⟨0, .inl ⟨rfl, rfl⟩, rfl⟩
    · exact ⟨port, .inr ⟨hdigits, hle⟩, (if_neg (by omega)).symm⟩
    · exact ⟨0, .inr ⟨hdigits, by decide⟩, rfl⟩
  · rintro ⟨n, ⟨hnil, rfl⟩ | ⟨hdigits, hle⟩, rfl⟩
    · cases behind? with
      | none => exact .none
      | some digits =>
        obtain rfl : digits = [] := hnil
        exact .empty
    · cases behind? with
      | none => exact absurd rfl hdigits.ne_nil
      | some digits =>
        rcases Nat.eq_zero_or_pos n with rfl | hpos
        · exact .zero hdigits
        · rw [if_neg (by omega)]
          exact .number hdigits hpos hle

theorem exists_gives {behind? : Option (List Char)} :
    (∃ port, Gives behind? port) ↔ portNumber? (behind?.getD []) ≠ none := by
  simp only [gives_iff, Option.ne_none_iff_exists']
  constructor
  · rintro ⟨port, n, hport, -⟩
    exact ⟨n, hport⟩
  · rintro ⟨n, hport⟩
    exact ⟨_, n, hport, rfl⟩

theorem parseHost_eq (host : String) :
    parseHost host =
      match portNumber? ((behindColon? host).getD []) with
      | none => .error (.invalidPort host)
      | some port =>
        if (beforeColon host).isEmpty then .error .emptyHost
        else .ok (String.ofList (beforeColon host), if port = 0 then defaultPort else port) := by
  rw [← drop_beforeColon]
  rfl

end Host

/-- What is looked for in the settings of a sender. -/
inductive Check where
  | hostPort
  | hostName
  | username
  | password
  | port
  | address

def Check.order : List Check :=
  [.hostPort, .hostName, .username, .password, .port, .address]

/-- The fault that a check finds. -/
def Check.Finds (c : SenderConfig) (e : ConfigError) : Check → Prop
  | .hostPort => (¬ ∃ port, Gives (behindColon? c.host) port) ∧ .invalidPort c.host = e
  | .hostName => beforeColon c.host = [] ∧ .emptyHost = e
  | .username => c.username = "" ∧ .emptyUsername = e
  | .password => c.password = "" ∧ .emptyPassword = e
  | .port => c.port = some 0 ∧ .invalidPort "0" = e
  | .address => ∃ text f, c.address = some text ∧ Address.parse text = .error f ∧
      .invalidAddress f = e

def Check.find? (c : SenderConfig) : Check → Option ConfigError
  | .hostPort =>
    if portNumber? ((behindColon? c.host).getD []) = none then some (.invalidPort c.host) else none
  | .hostName => if beforeColon c.host = [] then some .emptyHost else none
  | .username => if c.username = "" then some .emptyUsername else none
  | .password => if c.password = "" then some .emptyPassword else none
  | .port => if c.port = some 0 then some (.invalidPort "0") else none
  | .address =>
    match configuredAddress c.address with
    | .error e => some e
    | .ok _ => none

variable {c : SenderConfig}

theorem Check.find?_eq_some {e : ConfigError} (check : Check) :
    check.find? c = some e ↔ check.Finds c e := by
  cases check with
  | hostPort =>
    rw [find?, Finds, exists_gives, not_not, Option.ite_none_right_eq_some, Option.some.injEq]
  | hostName | username | password | port =>
    rw [find?, Finds, Option.ite_none_right_eq_some, Option.some.injEq]
  | address =>
    rw [find?, Finds]
    cases haddress : c.address with
    | none => simp [configuredAddress]
    | some text => cases hparse : Address.parse text <;> simp [configuredAddress, hparse]

/-- The checks are made in their order, up to the first one that finds something. -/
theorem ofConfig_eq_error {e : ConfigError} :
    ofConfig c = .error e ↔ Check.order.findSome? (Check.find? c) = some e := by
  rw [ofConfig, new, parseHost_eq]
  simp only [Check.order, List.findSome?_cons, List.findSome?_nil, Check.find?]
  cases hport : portNumber? ((behindColon? c.host).getD []) with
  | none => simp [bind, Except.bind]
  | some n =>
    by_cases hname : beforeColon c.host = []
    · simp [hname, bind, Except.bind]
    by_cases husername : c.username = ""
    · simp [hname, husername, bind, Except.bind]
    by_cases hpassword : c.password = ""
    · simp [hname, husername, hpassword, bind, Except.bind]
    cases hconfigured : c.port with
    | none => cases configuredAddress c.address <;>
        simp [hname, husername, hpassword, configuredPort, bind, Except.bind]
    | some port =>
      by_cases hzero : port = 0
      · simp [hname, husername, hpassword, configuredPort, hzero, bind, Except.bind]
      · cases configuredAddress c.address <;>
          simp [hname, husername, hpassword, configuredPort, hzero, bind, Except.bind]

section New

variable {host username password : String}

theorem new_of_port {n : Nat} (hport : portNumber? ((behindColon? host).getD []) = some n)
    (hname : beforeColon host ≠ []) (husername : username ≠ "") (hpassword : password ≠ "") :
    new host username password =
      .ok ⟨String.ofList (beforeColon host), if n = 0 then defaultPort else n, username, password,
        none⟩ := by
  rw [new, parseHost_eq, hport]
  simp [hname, husername, hpassword, bind, Except.bind]

theorem new_eq_ok {s : Sender} :
    new host username password = .ok s ↔
      beforeColon host ≠ [] ∧ username ≠ "" ∧ password ≠ "" ∧
        ∃ port, Gives (behindColon? host) port ∧
          s = ⟨String.ofList (beforeColon host), port, username, password, none⟩ := by
  constructor
  · intro h
    have hmade := h
    rw [new, parseHost_eq] at h
    cases hport : portNumber? ((behindColon? host).getD []) with
    | none => simp [hport, bind, Except.bind] at h
    | some n =>
      have hname : beforeColon host ≠ [] := by
        intro hname
        simp [hport, hname, bind, Except.bind] at h
      have husername : username ≠ "" := by
        intro husername
        simp [hport, hname, husername, bind, Except.bind] at h
      have hpassword : password ≠ "" := by
        intro hpassword
        simp [hport, hname, husername, hpassword, bind, Except.bind] at h
      rw [new_of_port hport hname husername hpassword] at hmade
      exact ⟨hname, husername, hpassword, _, gives_iff.mpr ⟨n, hport, rfl⟩,
        (Except.ok.inj hmade).symm⟩
  · rintro ⟨hname, husername, hpassword, port, hgives, rfl⟩
    obtain ⟨n, hport, rfl⟩ := gives_iff.mp hgives
    exact new_of_port hport hname husername hpassword

theorem new_eq_ofConfig (host username password : String) :
    new host username password = ofConfig ⟨host, none, username, password, none⟩ := by
  rw [ofConfig]
  cases h : new host username password with
  | error e => rfl
  | ok s =>
    obtain ⟨-, -, -, port, -, rfl⟩ := new_eq_ok.mp h
    rfl

end New

section Colon

variable {name : String} (hname : ':' ∉ name.toList)

include hname

theorem beforeColon_of_not_mem : beforeColon name = name.toList ∧ behindColon? name = none := by
  rw [beforeColon, behindColon?]
  have hall := bne_of_not_mem hname
  rw [List.takeWhile_eq_self_iff.mpr hall, List.dropWhile_eq_nil_iff.mpr hall]
  exact ⟨rfl, rfl⟩

theorem beforeColon_append (behind : List Char) :
    beforeColon (name ++ ":" ++ String.ofList behind) = name.toList ∧
      behindColon? (name ++ ":" ++ String.ofList behind) = some behind := by
  have htext : (name ++ ":" ++ String.ofList behind).toList = name.toList ++ ':' :: behind := by
    simp
  rw [beforeColon, behindColon?, htext, takeWhile_append_cons hname,
    dropWhile_append_cons (bne_of_not_mem hname) (by decide)]
  exact ⟨rfl, rfl⟩

end Colon

/-- A host text makes a sender exactly if it has a name, with no port, a number of up to 65535 or
nothing behind its colon, and the credentials are there. A port other than zero gives the same
sender behind the host and as a setting; zero is the default port behind the host, and is refused as
a setting. Of all faults in the settings the first one, in the order of the checks, is reported. -/
theorem port_either_way (host username password : String) (port? : Option Nat)
    (address? : Option String) :
    (∀ s, new host username password = .ok s ↔
      beforeColon host ≠ [] ∧ username ≠ "" ∧ password ≠ "" ∧
        ∃ port, Gives (behindColon? host) port ∧
          s = ⟨String.ofList (beforeColon host), port, username, password, none⟩) ∧
    (host ≠ "" → ':' ∉ host.toList → username ≠ "" → password ≠ "" →
      ∀ digits port, IsDecimal digits port → port ≤ 65535 →
      let behindHost := new (host ++ ":" ++ String.ofList digits) username password
      let setting := ofConfig ⟨host, some port, username, password, none⟩
      (port ≠ 0 → behindHost = setting ∧ setting = .ok ⟨host, port, username, password, none⟩) ∧
      (port = 0 → behindHost = .ok ⟨host, 25, username, password, none⟩ ∧
        setting = .error (.invalidPort "0"))) ∧
    new host username password = ofConfig ⟨host, none, username, password, none⟩ ∧
    let c : SenderConfig := ⟨host, port?, username, password, address?⟩
    ∀ e, ofConfig c = .error e ↔
      ∃ before check after, Check.order = before ++ check :: after ∧ check.Finds c e ∧
        ∀ earlier ∈ before, ∀ e', ¬ earlier.Finds c e' := by
  refine ⟨fun _ ↦ new_eq_ok, ?_, new_eq_ofConfig _ _ _, fun e ↦ ?_⟩
  · intro hne hname husername hpassword digits port hdigits hport
    have hnonempty : host.toList ≠ [] := mt String.toList_eq_nil_iff.mp hne
    obtain ⟨hbefore, hbehind⟩ := beforeColon_append hname digits
    obtain ⟨hbefore', hbehind'⟩ := beforeColon_of_not_mem hname
    have hnew {p : Nat} (hgives : Gives (some digits) p) :
        new (host ++ ":" ++ String.ofList digits) username password =
          .ok ⟨host, p, username, password, none⟩ := by
      rw [new_eq_ok, hbefore, hbehind, String.ofList_toList]
      exact ⟨hnonempty, husername, hpassword, p, hgives, rfl⟩
    have hplain : new host username password = .ok ⟨host, 25, username, password, none⟩ := by
      rw [new_eq_ok, hbefore', hbehind', String.ofList_toList]
      exact ⟨hnonempty, husername, hpassword, 25, .none, rfl⟩
    have hconfig : ofConfig ⟨host, some port, username, password, none⟩ =
        (configuredPort 25 (some port)).map fun p ↦ ⟨host, p, username, password, none⟩ := by
      rw [ofConfig, hplain]
      rfl
    refine ⟨fun hzero ↦ ?_, fun hzero ↦ ?_⟩
    · have hmade : ofConfig ⟨host, some port, username, password, none⟩ =
          .ok ⟨host, port, username, password, none⟩ := by
        rw [hconfig, configuredPort, if_neg hzero]
        rfl
      exact ⟨(hnew (.number hdigits (Nat.pos_of_ne_zero hzero) hport)).trans hmade.symm, hmade⟩
    · subst hzero
      exact ⟨hnew (.zero hdigits), hconfig⟩
  · rw [ofConfig_eq_error, List.findSome?_eq_some_iff]
    simp only [Check.find?_eq_some, Option.eq_none_iff_forall_ne_some, ne_eq]

theorem leadingZeros_either_way :
    new "mail.example.com:00587" "user" "pass" =
      ofConfig ⟨"mail.example.com", some 587, "user", "pass", none⟩ ∧
    ofConfig ⟨":587x", some 0, "", "", some "nobody"⟩ = .error (.invalidPort ":587x") := by
  obtain ⟨-, hagree, -, -⟩ := port_either_way "mail.example.com" "user" "pass" none none
  obtain ⟨-, -, -, hfirst⟩ := port_either_way ":587x" "" "" (some 0) (some "nobody")
  have hdigits : IsDecimal "00587".toList 587 := ⟨2, by decide⟩
  refine ⟨((hagree (by decide) (by decide) (by decide) (by decide) _ 587 hdigits
    (by decide)).1 (by decide)).1, ?_⟩
  refine (hfirst _).mpr ⟨[], .hostPort, _, rfl, ⟨?_, rfl⟩, by simp⟩
  rw [exists_gives, not_not]
  decide +kernel

/-- Zero is a port behind the host, and none as a setting. -/
theorem zero_only_behind_host :
    new "mail.example.com:0" "user" "pass" = .ok ⟨"mail.example.com", 25, "user", "pass", none⟩ ∧
    ofConfig ⟨"mail.example.com", some 0, "user", "pass", none⟩ = .error (.invalidPort "0") := by
  decide +kernel

end MimeMail.Sender
