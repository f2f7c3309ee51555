import Mathlib.Data.List.TakeWhile
import TimeProbe.Config.TargetName

/-!
# The forms of a target

A text names a target in exactly one of a few forms, told apart by a bracket in front and by the
number of colons; every other text is refused with the reason. So a host and a port are read back
from the text that puts them together, a host that is alone gets the port that was given
separately, and nothing is ever split at a colon of the host.
-/

namespace TimeProbe

open TimeProbe.Text

namespace Text

/-- A text without characters of a set is not trimmed. -/
theorem trim_eq_self {p : Char → Bool} {cs : List Char} (h : ∀ c ∈ cs, p c = false) :
    trim p cs = cs := by
  have hdrop {ds : List Char} (hds : ∀ c ∈ ds, p c = false) : ds.dropWhile p = ds := by
    cases ds with
    | nil => rfl
    | cons d ds => rw [List.dropWhile_cons, hds d List.mem_cons_self, if_neg Bool.false_ne_true]
  have hreverse : ∀ c ∈ cs.reverse, p c = false := fun c hc => h c (List.mem_reverse.mp hc)
  rw [trim, trimLeft, hdrop h, trimRight, hdrop hreverse, List.reverse_reverse]

end Text

namespace Numeral

/-- A character that is a digit of ASCII. -/
theorem toNat_of_isDigit {c : Char} (h : c.isDigit = true) : 48 ≤ c.toNat ∧ c.toNat ≤ 57 :=
  Char.isDigit_iff_toNat.mp h

/-- Characters of ASCII stand for themselves in a numeral. -/
theorem mapM_plainChar? {cs : List Char} (h : ∀ c ∈ cs, c.isDigit = true) :
    cs.mapM plainChar? = some cs := by
  induction cs with
  | nil => rfl
  | cons c cs ih =>
    obtain ⟨hc, hcs⟩ := List.forall_mem_cons.mp h
    have hrange := toNat_of_isDigit hc
    have hplain : plainChar? c = some c := if_pos (by omega)
    simp [List.mapM_cons, hplain, ih hcs]

/-- Digits have no sign in front. -/
theorem splitSign_of_digits {cs : List Char} (h : ∀ c ∈ cs, c.isDigit = true) :
    splitSign cs = (false, cs) := by
  unfold splitSign
  split
  · exact absurd (h _ List.mem_cons_self) (by decide)
  · exact absurd (h _ List.mem_cons_self) (by decide)
  · rfl

/-- Digits have no underscores to leave out. -/
theorem ungroup_of_digits {cs : List Char} (h : ∀ c ∈ cs, c.isDigit = true) (afterDigit : Bool) :
    ungroup afterDigit cs = some cs := by
  induction cs generalizing afterDigit with
  | nil => rfl
  | cons c cs ih =>
    obtain ⟨hc, hcs⟩ := List.forall_mem_cons.mp h
    have hunderscore : c ≠ '_' := by
      rintro rfl
      exact absurd hc (by decide)
    rw [ungroup, ih hcs, Option.map_some]
    exact fun heq => absurd heq hunderscore

/-- The decimal digits of a number denote it. -/
theorem ofDigits_toDigits (n : Nat) : ofDigits (Nat.toDigits 10 n) = n := by
  have hcore : Nat.ofDigitChars 10 (Nat.toDigits 10 n) 0 = n := Nat.ofDigitChars_ten_toDigits
  have hzero : '0'.toNat = 48 := rfl
  rw [Nat.ofDigitChars_eq_foldl, hzero] at hcore
  simpa only [ofDigits, Nat.mul_comm] using hcore

/-- A number is read from its decimal digits, unless there are too many. -/
theorem integer?_toString {n : Nat} (h : (Nat.toDigits 10 n).length ≤ maxDigits) :
    integer? (toString n) = some (n : Int) := by
  have hdigits : ∀ c ∈ Nat.toDigits 10 n, c.isDigit = true := fun c =>
    Nat.isDigit_of_mem_toDigits (by decide) (by decide)
  have hblank : ∀ c ∈ Nat.toDigits 10 n, isAsciiBlank c = false := by
    intro c hc
    have hrange := toNat_of_isDigit (hdigits c hc)
    simp [isAsciiBlank]
    omega
  have hplain : plain? n.repr = some (Nat.toDigits 10 n) := by
    rw [plain?, Nat.toList_repr, mapM_plainChar? hdigits, Option.map_some, trim_eq_self hblank]
  have hall : (Nat.toDigits 10 n).all Char.isDigit = true := List.all_eq_true.mpr hdigits
  have hsome : (Nat.toDigits 10 n).isEmpty = false := by simp [Nat.toDigits_ne_nil]
  rw [Nat.toString_eq_repr, integer?, hplain]
  simp only [Option.bind_eq_bind, Option.bind_some, splitSign_of_digits hdigits,
    ungroup_of_digits hdigits, hall, hsome, ofDigits_toDigits, Nat.not_lt.mpr h]
  rfl

end Numeral

namespace TargetName

variable {text : String} {c : Char} {cs : List Char}

/-- A text is cut at the first occurrence of a character. -/
theorem cut?_append {front : List Char} (h : c ∉ front) (rest : List Char) :
    cut? c (front ++ c :: rest) = some (front, rest) := by
  have hfront : ∀ d ∈ front, (d != c) = true := by
    intro d hd
    rw [bne_iff_ne]
    rintro rfl
    exact h hd
  rw [cut?, List.dropWhile_append_of_pos hfront, List.takeWhile_append_of_pos hfront,
    List.dropWhile_cons_of_neg (by simp), List.takeWhile_cons_of_neg (by simp)]
  simp

/-- A text is not cut at a character that does not occur. -/
theorem cut?_eq_none (h : c ∉ cs) : cut? c cs = none := by
  have hall : cs.dropWhile (· != c) = [] := by
    rw [List.dropWhile_eq_nil_iff]
    intro d hd
    rw [bne_iff_ne]
    rintro rfl
    exact h hd
  rw [cut?, hall]

/-- The forms of a target, each with what it comes to. A bracket in front asks for one behind the
host, and then for nothing or for a port behind a colon. Without it, exactly one colon stands in
front of a port; with none or with several the whole text is the host. -/
inductive Form (text : String) : Except ParseError TargetName → Prop
  | whole (noBracket : text.toList.head? ≠ some '[') (colons : text.toList.count ':' ≠ 1) :
      Form text (.ok ⟨text, none⟩)
  | hostPort {host port : List Char} (noBracket : text.toList.head? ≠ some '[')
      (parts : text.toList = host ++ ':' :: port) (first : ':' ∉ host) (only : ':' ∉ port) :
      Form text (withPort text host port)
  | bracketed {host : List Char} (parts : text.toList = '[' :: (host ++ [']']))
      (first : ']' ∉ host) : Form text (.ok ⟨String.ofList host, none⟩)
  | bracketedPort {host port : List Char}
      (parts : text.toList = '[' :: (host ++ ']' :: ':' :: port)) (first : ']' ∉ host) :
      Form text (withPort text host port)
  | unterminated {cs : List Char} (parts : text.toList = '[' :: cs) (never : ']' ∉ cs) :
      Form text (.error (.unterminated text))
  | trailing {host rest : List Char} {c : Char}
      (parts : text.toList = '[' :: (host ++ ']' :: c :: rest)) (first : ']' ∉ host)
      (other : c ≠ ':') : Form text (.error (.trailing text))

/-- Without a bracket in front a text is cut at its first colon, unless there are more. -/
theorem parseChars_of_noBracket (h : cs.head? ≠ some '[') :
    parseChars text cs = match cut? ':' cs with
      | some (host, port) => if ':' ∈ port then .ok ⟨text, none⟩ else withPort text host port
      | none => .ok ⟨text, none⟩ := by
  unfold parseChars
  split
  · exact absurd rfl h
  · rfl

/-- With a bracket in front a text is cut at the first bracket that closes. -/
theorem parseChars_of_bracket (cs : List Char) :
    parseChars text ('[' :: cs) = match cut? ']' cs with
      | none => .error (.unterminated text)
      | some (host, []) => .ok ⟨String.ofList host, none⟩
      | some (host, ':' :: port) => withPort text host port
      | some _ => .error (.trailing text) := rfl

/-- A text comes to what its form says. -/
theorem Form.parse_eq {result : Except ParseError TargetName} (h : Form text result) :
    parse text = result := by
  rw [parse]
  cases h with
  | whole noBracket colons =>
    rw [parseChars_of_noBracket noBracket]
    by_cases hcolon : ':' ∈ text.toList
    · obtain ⟨host, port, hparts, hfirst⟩ := List.eq_append_cons_of_mem hcolon
      have hmore : ':' ∈ port := by
        rw [hparts, List.count_append, List.count_cons_self, List.count_eq_zero.mpr hfirst]
          at colons
        exact List.count_pos_iff.mp (by omega)
      rw [hparts, cut?_append hfirst]
      exact if_pos hmore
    · rw [cut?_eq_none hcolon]
  | hostPort noBracket parts first only =>
    rw [parseChars_of_noBracket noBracket, parts, cut?_append first]
    exact if_neg only
  | bracketed parts first => rw [parts, parseChars_of_bracket, cut?_append first]
  | bracketedPort parts first =>
    rw [parts, parseChars_of_bracket, cut?_append first]
    rfl
  | unterminated parts never => rw [parts, parseChars_of_bracket, cut?_eq_none never]
  | trailing parts first other =>
    rw [parts, parseChars_of_bracket, cut?_append first]
    split
    next heq => cases heq
    next heq => cases heq
    next heq =>
      cases heq
      exact absurd rfl other
    next => rfl

/-- Every text is of some form. -/
theorem exists_form (text : String) : ∃ result, Form text result := by
  by_cases hbracket : text.toList.head? = some '['
  · obtain ⟨cs, hcs⟩ := List.head?_eq_some_iff.mp hbracket
    by_cases hclosed : ']' ∈ cs
    · obtain ⟨host, rest, rfl, hfirst⟩ := List.eq_append_cons_of_mem hclosed
      rcases rest with _ | ⟨c, rest⟩
      · exact ⟨_, .bracketed hcs hfirst⟩
      by_cases hcolon : c = ':'
      · subst hcolon
        exact ⟨_, .bracketedPort hcs hfirst⟩
      · exact ⟨_, .trailing hcs hfirst hcolon⟩
    · exact ⟨_, .unterminated hcs hclosed⟩
  · by_cases hcolons : text.toList.count ':' = 1
    · have hcolon : ':' ∈ text.toList := List.count_pos_iff.mp (by omega)
      obtain ⟨host, port, hparts, hfirst⟩ := List.eq_append_cons_of_mem hcolon
      have honly : ':' ∉ port := by
        rw [hparts, List.count_append, List.count_cons_self, List.count_eq_zero.mpr hfirst]
          at hcolons
        exact List.count_eq_zero.mp (by omega)
      exact ⟨_, .hostPort hbracket hparts hfirst honly⟩
    · exact ⟨_, .whole hbracket hcolons⟩

/-- A text has the form that decides what it comes to. -/
theorem form_iff {result : Except ParseError TargetName} :
    Form text result ↔ parse text = result := by
  constructor
  · exact Form.parse_eq
  · rintro rfl
    obtain ⟨result, hform⟩ := exists_form text
    rwa [hform.parse_eq]

/-- A port is read back from its digits. -/
theorem withPort_toDigits {n : Nat} (hn : n ≤ 65535) (text : String) (host : List Char) :
    withPort text host (Nat.toDigits 10 n) = .ok ⟨String.ofList host, some (n : Int)⟩ := by
  have hfive : (Nat.toDigits 10 n).length ≤ 5 :=
    (Nat.length_toDigits_le_iff (by decide) (by decide)).mpr (by omega)
  have hfew : (Nat.toDigits 10 n).length ≤ Numeral.maxDigits := Nat.le_trans hfive (by decide)
  rw [withPort, ← Nat.toString_eq_ofList_toDigits, Numeral.integer?_toString hfew]

/-- A port has no colon among its digits. -/
theorem colon_not_mem_toDigits (n : Nat) : ':' ∉ Nat.toDigits 10 n := by
  intro hmem
  exact absurd (Nat.isDigit_of_mem_toDigits (by decide) (by decide) hmem) (by decide)

/-- A host and a port are read back from the text that has a colon between them. -/
theorem parse_hostPort {host : String} {n : Nat} (hn : n ≤ 65535) (hcolon : ':' ∉ host.toList)
    (hbracket : host.toList.head? ≠ some '[') :
    parse (host ++ ":" ++ toString n) = .ok ⟨host, some (n : Int)⟩ := by
  have hparts : (host ++ ":" ++ toString n).toList = host.toList ++ ':' :: Nat.toDigits 10 n := by
    simp
  have hfront : (host ++ ":" ++ toString n).toList.head? ≠ some '[' := by
    rw [hparts]
    cases hhost : host.toList with
    | nil => simp
    | cons c cs => simpa [hhost] using hbracket
  rw [(Form.hostPort hfront hparts hcolon (colon_not_mem_toDigits n)).parse_eq,
    withPort_toDigits hn, String.ofList_toList]

/-- A host and a port are read back where brackets stand around the host. -/
theorem parse_bracketedPort {host : String} {n : Nat} (hn : n ≤ 65535)
    (hbracket : ']' ∉ host.toList) :
    parse ("[" ++ host ++ "]:" ++ toString n) = .ok ⟨host, some (n : Int)⟩ := by
  have hparts : ("[" ++ host ++ "]:" ++ toString n).toList =
      '[' :: (host.toList ++ ']' :: ':' :: Nat.toDigits 10 n) := by
    simp
  rw [(Form.bracketedPort hparts hbracket).parse_eq, withPort_toDigits hn, String.ofList_toList]

/-- A host is read back from brackets around it. -/
theorem parse_bracketed {host : String} (hbracket : ']' ∉ host.toList) :
    parse ("[" ++ host ++ "]") = .ok ⟨host, none⟩ := by
  have hparts : ("[" ++ host ++ "]").toList = '[' :: (host.toList ++ [']']) := by simp
  rw [(Form.bracketed hparts hbracket).parse_eq, String.ofList_toList]

end TargetName

/-- A draft whose values, besides target and port, are in order. -/
structure RunDraft.Sound (d : RunDraft) : Prop where
  fit : d.unfit = []
  timeout : d.timeout.bind RunConfig.durationProblem? = none
  kePort : d.kePort.bind RunConfig.portProblem? = none
  caseTimeout : d.caseTimeout.bind RunConfig.durationProblem? = none
  caFile : d.caFile.isSome = true → d.ntsEnabled = some true

namespace RunConfig

variable {settings : Settings} {draft : RunDraft} {text host : String} {port : Int}

/-- A draft that is in order is accepted with every target and every port in range. -/
theorem ofDraft_of_sound (hdraft : draft.Sound) (hhost : host ≠ "") (hlow : 1 ≤ port)
    (hhigh : port ≤ 65535) :
    ofDraft { draft with target := some host, port := some port } =
      .ok { fill draft with target := host, port := port } := by
  obtain ⟨target, given, timeout, ntsEnabled, kePort, caFile, caseTimeout, unfit⟩ := draft
  obtain ⟨hfit, htimeout, hkePort, hcaseTimeout, hcaFile⟩ := hdraft
  dsimp only at hfit htimeout hkePort hcaseTimeout hcaFile
  subst hfit
  have htarget : targetProblem? (some host) = none := by
    simp [targetProblem?, hhost]
  have hport : portProblem? port = none := by
    rw [portProblem?, if_neg (by omega), if_neg (by omega)]
  have hnone : problems ⟨some host, some port, timeout, ntsEnabled, kePort, caFile, caseTimeout,
      []⟩ = [] := by
    simp [problems, fieldProblem?, htarget, hport, htimeout, hkePort, hcaseTimeout]
  have hrule : ((caFile.map Path.normal).isSome && !ntsEnabled.getD false) = false := by
    cases caFile with
    | none => rfl
    | some path => simp [hcaFile rfl]
  rw [ofDraft, hnone]
  exact if_neg (Bool.eq_false_iff.mp hrule)

/-- A target that is read gives a configuration with its host, and with its port or else the one
that is chosen in its place. -/
theorem ofTarget_of_parse {named : Option Int} (hdraft : draft.Sound)
    (hparse : TargetName.parse text = .ok ⟨host, named⟩) (hhost : host ≠ "")
    (hlow : 1 ≤ choosePort settings named draft.port)
    (hhigh : choosePort settings named draft.port ≤ 65535) :
    ofTarget settings text draft = .ok
      { fill draft with target := host, port := choosePort settings named draft.port } := by
  have hfit := hdraft.fit
  have hsame : { draft with
      target := some host, port := some (choosePort settings named draft.port)
      unfit := draft.unfit.filter fun field => field ≠ "port" || named.isNone } =
      { draft with target := some host, port := some (choosePort settings named draft.port) } := by
    simp [hfit]
  rw [ofTarget, hparse]
  dsimp only
  rw [hsame, ofDraft_of_sound hdraft hhost hlow hhigh]
  rfl

/-- Without a port in the name the one given separately is chosen, or else the default. -/
theorem choosePort_none (settings : Settings) (given : Option Int) :
    choosePort settings none given = given.getD settings.defaultPort := by
  cases given <;> rfl

/-- **Targets are read back.** A host without a colon and without a bracket in front, followed by a
colon and a port, gives that host and that port, whatever port was given separately; so does a host
without a closing bracket that stands in brackets. Such a host alone, in brackets or not, and a text
with several colons and no bracket in front give the host and the port that was given separately, or
else the default. Every text is of exactly one of the forms of a target and comes to what its form
says; and what is refused is refused as a configuration that cannot be. -/
theorem ofTarget_exact (settings : Settings) {draft : RunDraft} (hdraft : draft.Sound) :
    (∀ (host : String) (n : Nat), host ≠ "" → 1 ≤ n → n ≤ 65535 →
      (':' ∉ host.toList → host.toList.head? ≠ some '[' →
        ofTarget settings (host ++ ":" ++ toString n) draft =
          .ok { fill draft with target := host, port := n }) ∧
      (']' ∉ host.toList →
        ofTarget settings ("[" ++ host ++ "]:" ++ toString n) draft =
          .ok { fill draft with target := host, port := n })) ∧
    (∀ (host : String) (port : Int), host ≠ "" → port = draft.port.getD settings.defaultPort →
      1 ≤ port → port ≤ 65535 →
      (':' ∉ host.toList → host.toList.head? ≠ some '[' →
        ofTarget settings host draft = .ok { fill draft with target := host, port := port }) ∧
      (']' ∉ host.toList →
        ofTarget settings ("[" ++ host ++ "]") draft =
          .ok { fill draft with target := host, port := port }) ∧
      (2 ≤ host.toList.count ':' → host.toList.head? ≠ some '[' →
        ofTarget settings host draft = .ok { fill draft with target := host, port := port })) ∧
    ∀ text, (∀ result, TargetName.Form text result ↔ TargetName.parse text = result) ∧
      ∀ e, TargetName.parse text = .error e →
        e.fault.kind = .configuration ∧ ofTarget settings text draft = .error (.name e) := by
  refine ⟨?_, ?_, ?_⟩
  · intro host n hhost hlow hhigh
    -- The port in the name is chosen, whatever else was given.
    have hread {text : String} (hparse : TargetName.parse text = .ok ⟨host, some (n : Int)⟩) :
        ofTarget settings text draft = .ok { fill draft with target := host, port := n } :=
      ofTarget_of_parse hdraft hparse hhost (show 1 ≤ (n : Int) by omega)
        (show (n : Int) ≤ 65535 by omega)
    constructor
    · intro hcolon hbracket
      exact hread (TargetName.parse_hostPort hhigh hcolon hbracket)
    · intro hbracket
      exact hread (TargetName.parse_bracketedPort hhigh hbracket)
  · rintro host port hhost hport hlow hhigh
    rw [← choosePort_none] at hport
    have hread {text : String} (hparse : TargetName.parse text = .ok ⟨host, none⟩) :
        ofTarget settings text draft = .ok { fill draft with target := host, port := port } := by
      rw [hport]
      exact ofTarget_of_parse hdraft hparse hhost (hport ▸ hlow) (hport ▸ hhigh)
    have hwhole (hcolons : host.toList.count ':' ≠ 1) (hbracket : host.toList.head? ≠ some '[') :=
      hread (TargetName.Form.whole hbracket hcolons).parse_eq
    refine ⟨?_, ?_, ?_⟩
    · intro hcolon hbracket
      have hcount : host.toList.count ':' = 0 := List.count_eq_zero.mpr hcolon
      exact hwhole (by omega) hbracket
    · intro hbracket
      exact hread (TargetName.parse_bracketed hbracket)
    · intro hcolons hbracket
      exact hwhole (by omega) hbracket
  · intro text
    refine ⟨fun result => TargetName.form_iff, fun e he => ⟨rfl, ?_⟩⟩
    rw [ofTarget, he]

/-- A host in brackets keeps its colons, and the port behind it wins over one given separately that
could not be used. -/
theorem ofTarget_exact_bracketed :
    let draft : RunDraft := { port := some 0, caFile := some "ca.pem", ntsEnabled := some true }
    draft.Sound ∧
      ofTarget {} "[fe80::1]:4123" draft =
        .ok { fill draft with target := "fe80::1", port := (4123 : Nat) } ∧
      TargetName.parse "[fe80::1]x" = .error (.trailing "[fe80::1]x") := by
  intro draft
  have hdraft : draft.Sound := ⟨rfl, rfl, rfl, rfl, fun _ => rfl⟩
  obtain ⟨hnamed, -, hforms⟩ := ofTarget_exact {} hdraft
  refine ⟨hdraft, ?_, ?_⟩
  · exact (hnamed "fe80::1" 4123 (by decide) (by decide) (by decide)).2 (by decide)
  · have hparts : "[fe80::1]x".toList = '[' :: ("fe80::1".toList ++ ']' :: 'x' :: []) := by decide
    exact ((hforms "[fe80::1]x").1 _).mp (.trailing hparts (by decide) (by decide))

end RunConfig

end TimeProbe
