import NostrVpn.Rust.NetText
import NostrVpn.Rust.Replace

/-!
# Service registrations

`nostr-vpn-cli/src/service_management.rs` and `nostr-vpn-core/src/platform_paths.rs`: the systemd unit, the
command line of the Windows service and the escapes of the launchd plist, and the functions that read paths
back from them. A registration round-trips when every reader returns the path that was written.
-/
namespace NostrVpn.Cli

open Rust

/-! ## Writers -/

def systemdQuote (value : String) : String :=
  let escaped := replaceChar '"' "\\\"" (replaceChar '\\' "\\\\" value)
  "\"" ++ escaped ++ "\""

def linuxServiceUnitContent (executable configPath iface : String) (announceIntervalSecs : Nat)
    (logPath : String) : String :=
  let exec := systemdQuote executable
  let config := systemdQuote configPath
  let iface := systemdQuote iface
  let log := systemdQuote logPath
  "[Unit]\nDescription=Nostr VPN daemon\nAfter=network-online.target\nWants=network-online.target\n\n[Service]\nType=simple\n" ++
    ("ExecStart=" ++ exec ++ " daemon --service --config " ++ config ++ " --iface " ++ iface ++
      " --announce-interval-secs " ++ fmtNat announceIntervalSecs) ++ "\n" ++
    ("Restart=always\nRestartSec=3\nStandardOutput=append:" ++ log ++ "\nStandardError=append:" ++ log ++
      "\n\n[Install]\nWantedBy=multi-user.target\n")

/-- One round of the loop: what is written, and the backslashes that are held back. -/
def quoteRound : List Char × Nat → Char → List Char × Nat
  | (quoted, backslashes), ch =>
    if ch = '\\' then (quoted, backslashes + 1)
    else if ch = '"' then (quoted ++ List.replicate (backslashes * 2 + 1) '\\' ++ ['"'], 0)
    else (quoted ++ List.replicate backslashes '\\' ++ [ch], 0)

def windowsCommandLineQuote (value : String) : String :=
  let (quoted, backslashes) := value.toList.foldl quoteRound (['"'], 0)
  .ofList (quoted ++ List.replicate (backslashes * 2) '\\' ++ ['"'])

def windowsServiceBinPath (executable configPath iface : String) (announceIntervalSecs : Nat) : String :=
  join " " [windowsCommandLineQuote executable, "daemon", "--service", "--config",
    windowsCommandLineQuote configPath, "--iface", windowsCommandLineQuote iface,
    "--announce-interval-secs", fmtNat (max announceIntervalSecs 1)]

def xmlEscape (value : String) : String :=
  replaceChar '\'' "&apos;" (replaceChar '"' "&quot;" (replaceChar '>' "&gt;" (replaceChar '<' "&lt;"
    (replaceChar '&' "&amp;" value))))

/-! ## Readers -/

def trimStart (s : String) : String := .ofList (s.toList.dropWhile isWhitespace)

/-- `split_whitespace().next()`. -/
def firstWord (s : String) : Option String :=
  let word := (s.toList.dropWhile isWhitespace).takeWhile fun c => !isWhitespace c
  if word = [] then none else some (.ofList word)

def execStartProgram (command : String) : Option String :=
  (firstWord command).map trim

/-- A line with an opening quote and no closing one ends the search. -/
def execStartOf : List String → Option String
  | [] => none
  | line :: rest => match stripPrefix "ExecStart=" (trim line) with
    | none => execStartOf rest
    | some command => match stripPrefix "\"" command with
      | none => execStartProgram command
      | some quoted => match splitOnce '"' quoted with
        | none => none
        | some (executable, _) =>
          if !isBlank executable then some executable else execStartProgram command

def linuxServiceExecutablePathFromUnitContents (unit : String) : Option String :=
  execStartOf (lines unit)

/-- The copy of `nostr-vpn-cli`. -/
def windowsServiceBinaryPathFromScQcOutput (output : String) : Option String := do
  let line ← (lines output).find? fun line => startsWith "BINARY_PATH_NAME" (trimStart line)
  let (_, command) ← splitOnce ':' line
  let command := trim command
  match stripPrefix "\"" command with
  | some quoted =>
    let (executable, _) ← splitOnce '"' quoted
    if isBlank executable then none else some executable
  | none => (firstWord command).map trim

def windowsServiceCommandFromScQcOutput (output : String) : Option String :=
  (lines output).findSome? fun line => (splitOnce ':' (trim line)).bind fun (key, value) =>
    if eqIgnoreAsciiCase (trim key) "BINARY_PATH_NAME" then some (trim value) else none

def windowsCommandLineProgram (command : String) : Option String :=
  let command := trimStart command
  if command = "" then none
  else match stripPrefix "\"" command with
    | some remainder => (splitOnce '"' remainder).map Prod.fst
    | none => some (.ofList (command.toList.takeWhile fun c => !isWhitespace c))

def windowsCommandLineValueForFlag (command flag : String) : Option String := do
  let afterFlag := trimStart (.ofList (← afterFirst flag.toList command.toList))
  if afterFlag = "" then none
  else match stripPrefix "\"" afterFlag with
    | some remainder => (splitOnce '"' remainder).map Prod.fst
    | none => some (.ofList (afterFlag.toList.takeWhile fun c => !isWhitespace c))

/-- The copy of `nostr-vpn-core`. -/
def coreServiceBinaryPathFromScQcOutput (output : String) : Option String :=
  (windowsServiceCommandFromScQcOutput output).bind windowsCommandLineProgram

def windowsServiceConfigPathFromScQcOutput (output : String) : Option String :=
  (windowsServiceCommandFromScQcOutput output).bind fun command =>
    windowsCommandLineValueForFlag command "--config"

def xmlUnescape (value : String) : String :=
  replace "&amp;" "&" (replace "&apos;" "'" (replace "&quot;" "\"" (replace "&gt;" ">"
    (replace "&lt;" "<" value))))

/-! ## The plist -/

/-- The pieces of an escaped text. -/
def xmlEntity (c : Char) : List Char :=
  if c = '&' then ['&', 'a', 'm', 'p', ';'] else if c = '<' then ['&', 'l', 't', ';']
  else if c = '>' then ['&', 'g', 't', ';'] else if c = '"' then ['&', 'q', 'u', 'o', 't', ';']
  else if c = '\'' then ['&', 'a', 'p', 'o', 's', ';'] else [c]

/-- The pieces when the entities of some characters are read back. -/
def entityBut (done : List Char) (c : Char) : List Char := if c ∈ done then [c] else xmlEntity c

theorem forall_xmlEntity {P : Char → Prop} (amp : P '&') (lt : P '<') (gt : P '>') (quot : P '"')
    (apos : P '\'') (plain : ∀ c, c ≠ '&' → c ≠ '<' → c ≠ '>' → c ≠ '"' → c ≠ '\'' → P c) (c : Char) :
    P c := by
  by_cases h₁ : c = '&'
  · exact h₁ ▸ amp
  by_cases h₂ : c = '<'
  · exact h₂ ▸ lt
  by_cases h₃ : c = '>'
  · exact h₃ ▸ gt
  by_cases h₄ : c = '"'
  · exact h₄ ▸ quot
  by_cases h₅ : c = '\''
  · exact h₅ ▸ apos
  exact plain c h₁ h₂ h₃ h₄ h₅

theorem toList_amp : "&amp;".toList = ['&', 'a', 'm', 'p', ';'] := by decide
theorem toList_lt : "&lt;".toList = ['&', 'l', 't', ';'] := by decide
theorem toList_gt : "&gt;".toList = ['&', 'g', 't', ';'] := by decide
theorem toList_quot : "&quot;".toList = ['&', 'q', 'u', 'o', 't', ';'] := by decide
theorem toList_apos : "&apos;".toList = ['&', 'a', 'p', 'o', 's', ';'] := by decide

theorem toList_xmlEscape (s : String) : (xmlEscape s).toList = s.toList.flatMap (entityBut []) := by
  simp only [xmlEscape, replaceChar, String.toList_ofList, List.flatMap_assoc, toList_amp, toList_lt,
    toList_gt, toList_quot, toList_apos]
  refine List.flatMap_congr fun c _ => ?_
  clear * -
  revert c
  refine forall_xmlEntity rfl rfl rfl rfl rfl fun c h₁ h₂ h₃ h₄ h₅ => ?_
  simp [entityBut, xmlEntity, h₁, h₂, h₃, h₄, h₅]

/-- Reading back the entity of one more character. -/
theorem replaceFrom_entityBut {pat rep : List Char} {done done' : List Char}
    (amp : ∀ rest, replaceFrom pat rep 0 (entityBut done '&' ++ rest) =
      entityBut done' '&' ++ replaceFrom pat rep 0 rest)
    (lt : ∀ rest, replaceFrom pat rep 0 (entityBut done '<' ++ rest) =
      entityBut done' '<' ++ replaceFrom pat rep 0 rest)
    (gt : ∀ rest, replaceFrom pat rep 0 (entityBut done '>' ++ rest) =
      entityBut done' '>' ++ replaceFrom pat rep 0 rest)
    (quot : ∀ rest, replaceFrom pat rep 0 (entityBut done '"' ++ rest) =
      entityBut done' '"' ++ replaceFrom pat rep 0 rest)
    (apos : ∀ rest, replaceFrom pat rep 0 (entityBut done '\'' ++ rest) =
      entityBut done' '\'' ++ replaceFrom pat rep 0 rest)
    (opens : pat.head? = some '&') (s : List Char) :
    replaceFrom pat rep 0 (s.flatMap (entityBut done)) = s.flatMap (entityBut done') := by
  refine replaceFrom_flatMap (forall_xmlEntity amp lt gt quot apos fun c h₁ h₂ h₃ h₄ h₅ rest => ?_) s
  obtain ⟨tail, rfl⟩ := List.head?_eq_some_iff.mp opens
  have plain (done : List Char) : entityBut done c = [c] := by
    simp only [entityBut, xmlEntity, h₁, h₂, h₃, h₄, h₅, if_false, ite_self]
  have apart : ('&' :: tail).isPrefixOf (c :: rest) = false := by
    simp only [List.isPrefixOf, beq_false_of_ne (Ne.symm h₁), Bool.false_and]
  rw [plain, plain, List.singleton_append, replaceFrom, apart]
  rfl

/-- The entities are read back one character after the other, the ampersand last. -/
theorem xmlUnescape_xmlEscape (s : String) : xmlUnescape (xmlEscape s) = s := by
  have lt (s : List Char) : replaceFrom ['&', 'l', 't', ';'] ['<'] 0 (s.flatMap (entityBut [])) =
      s.flatMap (entityBut ['<']) :=
    replaceFrom_entityBut (fun _ => rfl) (fun _ => rfl) (fun _ => rfl) (fun _ => rfl) (fun _ => rfl) rfl s
  have gt (s : List Char) : replaceFrom ['&', 'g', 't', ';'] ['>'] 0 (s.flatMap (entityBut ['<'])) =
      s.flatMap (entityBut ['>', '<']) :=
    replaceFrom_entityBut (fun _ => rfl) (fun _ => rfl) (fun _ => rfl) (fun _ => rfl) (fun _ => rfl) rfl s
  have quot (s : List Char) : replaceFrom ['&', 'q', 'u', 'o', 't', ';'] ['"'] 0
      (s.flatMap (entityBut ['>', '<'])) = s.flatMap (entityBut ['"', '>', '<']) :=
    replaceFrom_entityBut (fun _ => rfl) (fun _ => rfl) (fun _ => rfl) (fun _ => rfl) (fun _ => rfl) rfl s
  have apos (s : List Char) : replaceFrom ['&', 'a', 'p', 'o', 's', ';'] ['\''] 0
      (s.flatMap (entityBut ['"', '>', '<'])) = s.flatMap (entityBut ['\'', '"', '>', '<']) :=
    replaceFrom_entityBut (fun _ => rfl) (fun _ => rfl) (fun _ => rfl) (fun _ => rfl) (fun _ => rfl) rfl s
  have amp (s : List Char) : replaceFrom ['&', 'a', 'm', 'p', ';'] ['&'] 0
      (s.flatMap (entityBut ['\'', '"', '>', '<'])) = s.flatMap (entityBut ['&', '\'', '"', '>', '<']) :=
    replaceFrom_entityBut (fun _ => rfl) (fun _ => rfl) (fun _ => rfl) (fun _ => rfl) (fun _ => rfl) rfl s
  have plain (s : List Char) : s.flatMap (entityBut ['&', '\'', '"', '>', '<']) = s := by
    induction s with
    | nil => rfl
    | cons c s ih =>
      have once : entityBut ['&', '\'', '"', '>', '<'] c = [c] := by
        revert c
        refine forall_xmlEntity rfl rfl rfl rfl rfl fun c h₁ h₂ h₃ h₄ h₅ => ?_
        simp [entityBut, xmlEntity, h₁, h₂, h₃, h₄, h₅]
      rw [List.flatMap_cons, once, ih]
      rfl
  refine String.toList_inj.mp ?_
  simp only [xmlUnescape, replace, String.toList_ofList, toList_xmlEscape, toList_amp, toList_lt,
    toList_gt, toList_quot, toList_apos]
  exact (((((congrArg _ (congrArg _ (congrArg _ (congrArg _ (lt s.toList))))).trans
    (congrArg _ (congrArg _ (congrArg _ (gt s.toList))))).trans
    (congrArg _ (congrArg _ (quot s.toList)))).trans (congrArg _ (apos s.toList))).trans
    (amp s.toList)).trans (plain s.toList)

/-! ## The command line of the Windows service -/

/-- The backslashes at the end of a text without quotes are written twice. -/
theorem toList_windowsCommandLineQuote {value : String} (h : '"' ∉ value.toList) :
    ∃ doubled, (doubled = 0 ↔ value.toList.getLast? ≠ some '\\') ∧
      (windowsCommandLineQuote value).toList =
        '"' :: (value.toList ++ List.replicate doubled '\\') ++ ['"'] := by
  have rounds (l : List Char) (h : '"' ∉ l) : ∃ quoted n, l.foldl quoteRound (['"'], 0) = (quoted, n) ∧
      quoted ++ List.replicate n '\\' = '"' :: l ∧ (n = 0 ↔ l.getLast? ≠ some '\\') := by
    induction l using List.reverseRecOn with
    | nil => exact ⟨['"'], 0, rfl, rfl, by simp⟩
    | append_singleton l ch ih =>
      rw [List.mem_append, not_or] at h
      obtain ⟨quoted, n, folded, written, -⟩ := ih h.1
      rw [List.foldl_concat, folded, quoteRound]
      have noQuote : ch ≠ '"' := fun same => h.2 (by simp [same])
      split_ifs with backslash
      · refine ⟨quoted, n + 1, rfl, ?_, by simp [backslash]⟩
        rw [List.replicate_succ', ← List.append_assoc, written, backslash]
        rfl
      · refine ⟨_, 0, rfl, ?_, by simpa using backslash⟩
        rw [written]
        simp
  obtain ⟨quoted, n, folded, written, last⟩ := rounds value.toList h
  refine ⟨n, last, ?_⟩
  rw [windowsCommandLineQuote, folded]
  simp only [String.toList_ofList, Nat.mul_two, List.replicate_add, ← List.append_assoc, written,
    List.cons_append]

/-- A command line whose program and configuration are quoted. -/
def serviceCommand (program config rest : List Char) : List Char :=
  '"' :: (program ++ '"' :: (" daemon --service --config ".toList ++ '"' :: (config ++ '"' :: rest)))

theorem toList_windowsServiceBinPath {executable configPath : String} (iface : String)
    (announceIntervalSecs : Nat) (h : '"' ∉ executable.toList) (h' : '"' ∉ configPath.toList) :
    ∃ n m rest, (n = 0 ↔ executable.toList.getLast? ≠ some '\\') ∧
      (m = 0 ↔ configPath.toList.getLast? ≠ some '\\') ∧
      (windowsServiceBinPath executable configPath iface announceIntervalSecs).toList =
        serviceCommand (executable.toList ++ List.replicate n '\\')
          (configPath.toList ++ List.replicate m '\\') rest := by
  obtain ⟨n, last, program⟩ := toList_windowsCommandLineQuote h
  obtain ⟨m, last', config⟩ := toList_windowsCommandLineQuote h'
  refine ⟨n, m, (" --iface " ++ windowsCommandLineQuote iface ++ " --announce-interval-secs " ++
    fmtNat (max announceIntervalSecs 1)).toList, last, last', ?_⟩
  simp only [windowsServiceBinPath, join, String.toList_append, program, config, serviceCommand,
    List.cons_append, List.append_assoc, List.nil_append]
  rfl

/-- The line is one that a reader may take for the command line of the service. -/
def isBinaryPathLine (line : String) : Bool :=
  startsWith "BINARY_PATH_NAME" (trimStart line) ||
    (splitOnce ':' (trim line)).any fun (key, _) => eqIgnoreAsciiCase (trim key) "BINARY_PATH_NAME"

/-- A listing whose first such line carries the command. -/
structure Lists (output command : String) : Prop where
  lines_eq : ∃ before pad gap gap' tail after,
    lines output = before ++ .ofList (pad ++ "BINARY_PATH_NAME".toList ++ gap ++ ':' :: (gap' ++
      command.toList ++ tail)) :: after ∧
    (∀ c ∈ pad ++ gap ++ gap', isWhitespace c = true) ∧ ∀ line ∈ before, isBinaryPathLine line = false

/-- The service command, as a trimmed value. -/
theorem trim_value {gap : List Char} (blank : ∀ c ∈ gap, isWhitespace c = true)
    (program config rest tail : List Char) :
    trim (.ofList (gap ++ serviceCommand program config rest ++ tail)) =
      .ofList (serviceCommand program config ((rest ++ tail).rdropWhile isWhitespace)) := by
  have quote : isWhitespace '"' = false := by decide
  simp only [serviceCommand, List.cons_append, List.append_assoc]
  rw [trim_append_cons quote, dropWhile_whitespace blank, List.nil_append,
    rdropWhile_append_cons quote, rdropWhile_append_cons quote, rdropWhile_append_cons quote]

theorem colon_notMem {pad gap : List Char} (blank : ∀ c ∈ pad ++ gap, isWhitespace c = true) :
    ':' ∉ pad ++ "BINARY_PATH_NAME".toList ++ gap := by
  have colon : isWhitespace ':' = false := by decide
  have key : ':' ∉ "BINARY_PATH_NAME".toList := by decide
  simp only [List.mem_append, not_or] at blank ⊢
  refine ⟨⟨fun mem => ?_, key⟩, fun mem => ?_⟩
  · simpa [colon] using blank ':' (.inl mem)
  · simpa [colon] using blank ':' (.inr mem)

theorem windowsServiceBinaryPath_of_lists {output : String} {command : String}
    {program config rest : List Char} (listed : Lists output command)
    (eq : command.toList = serviceCommand program config rest) (whole : '"' ∉ program)
    (nonblank : isBlank (.ofList program) = false) :
    windowsServiceBinaryPathFromScQcOutput output = some (.ofList program) := by
  obtain ⟨before, pad, gap, gap', tail, after, listing, blank, first⟩ := listed.lines_eq
  simp only [List.mem_append, or_assoc] at blank
  have key : "BINARY_PATH_NAME".toList = 'B' :: "INARY_PATH_NAME".toList := by decide
  have earlier : before.find? (fun line => startsWith "BINARY_PATH_NAME" (trimStart line)) = none := by
    refine List.find?_eq_none.mpr fun line mem starts => ?_
    have other := first line mem
    simp [isBinaryPathLine, starts] at other
  have colon := @colon_notMem pad gap fun c mem => blank c (by
    rcases List.mem_append.mp mem with mem | mem <;> simp [mem])
  have found : startsWith "BINARY_PATH_NAME" (trimStart (.ofList (pad ++ "BINARY_PATH_NAME".toList ++ gap ++
      ':' :: (gap' ++ command.toList ++ tail)))) = true := by
    have start : (pad ++ "BINARY_PATH_NAME".toList ++ gap ++
        ':' :: (gap' ++ command.toList ++ tail)).dropWhile isWhitespace =
          "BINARY_PATH_NAME".toList ++ (gap ++ ':' :: (gap' ++ command.toList ++ tail)) := by
      simp only [key, List.append_assoc, List.cons_append]
      rw [dropWhile_append_cons (by decide), dropWhile_whitespace fun c mem => blank c (.inl mem)]
      rfl
    have trimmed := congrArg String.ofList ((congrArg _ String.toList_ofList).trans start)
    rw [trimStart, trimmed]
    exact startsWith_ofList _ _
  have value := trim_value (fun c mem => blank c (.inr (.inr mem))) program config rest tail
  rw [← eq] at value
  unfold windowsServiceBinaryPathFromScQcOutput
  rw [listing, List.find?_append, earlier]
  simp only [Option.none_or, List.find?_cons, found]
  simp only [Option.bind_eq_bind, Option.bind_some, splitOnce_ofList colon, value, serviceCommand]
  have opened := stripPrefix_ofList "\"" (program ++ '"' :: (" daemon --service --config ".toList ++
    '"' :: (config ++ '"' :: (rest ++ tail).rdropWhile isWhitespace)))
  rw [show "\"".toList = ['"'] from rfl, List.singleton_append] at opened
  rw [opened]
  simp only [splitOnce_ofList whole, Option.bind_some, nonblank]
  rfl

theorem serviceCommand_of_lists {output : String} {command : String}
    {program config rest : List Char} (listed : Lists output command)
    (eq : command.toList = serviceCommand program config rest) :
    ∃ rest', windowsServiceCommandFromScQcOutput output =
      some (.ofList (serviceCommand program config rest')) := by
  obtain ⟨before, pad, gap, gap', tail, after, listing, blank, first⟩ := listed.lines_eq
  simp only [List.mem_append, or_assoc] at blank
  have quote : isWhitespace '"' = false := by decide
  have key : "BINARY_PATH_NAME".toList = 'B' :: "INARY_PATH_NAME".toList := by decide
  have colon := @colon_notMem [] gap fun c mem => blank c (.inr (.inl (by simpa using mem)))
  have trimmed : trim (.ofList (pad ++ "BINARY_PATH_NAME".toList ++ gap ++ ':' :: (gap' ++ command.toList ++
      tail))) = .ofList (([] ++ "BINARY_PATH_NAME".toList ++ gap) ++ ':' :: (gap' ++
        serviceCommand program config ((rest ++ tail).rdropWhile isWhitespace))) := by
    have line : pad ++ "BINARY_PATH_NAME".toList ++ gap ++ ':' :: (gap' ++ command.toList ++ tail) =
        (pad ++ 'B' :: ("INARY_PATH_NAME".toList ++ gap ++ ':' :: gap')) ++ '"' :: (program ++ '"' ::
          (" daemon --service --config ".toList ++ '"' :: (config ++ '"' :: (rest ++ tail)))) := by
      simp only [eq, key, serviceCommand, List.append_assoc, List.cons_append]
    rw [line, trim_append_cons quote, dropWhile_append_cons (by decide),
      dropWhile_whitespace fun c mem => blank c (.inl mem), rdropWhile_append_cons quote,
      rdropWhile_append_cons quote, rdropWhile_append_cons quote]
    simp only [key, serviceCommand, List.append_assoc, List.cons_append, List.nil_append]
  have name : trim (.ofList ([] ++ "BINARY_PATH_NAME".toList ++ gap)) = "BINARY_PATH_NAME" := by
    have text : [] ++ "BINARY_PATH_NAME".toList ++ gap = "BINARY_PATH_NAM".toList ++ 'E' :: gap := by
      rw [List.nil_append, show "BINARY_PATH_NAME".toList = "BINARY_PATH_NAM".toList ++ ['E'] from by decide,
        List.append_assoc]
      rfl
    rw [text, trim_append_cons (by decide), rdropWhile_whitespace fun c mem => blank c (.inr (.inl mem))]
    decide
  have value := trim_value (fun c mem => blank c (.inr (.inr mem))) program config
    ((rest ++ tail).rdropWhile isWhitespace) []
  rw [List.append_nil, List.append_nil] at value
  have earlier : before.findSome? (fun line => (splitOnce ':' (trim line)).bind fun (key, value) =>
      if eqIgnoreAsciiCase (trim key) "BINARY_PATH_NAME" then some (trim value) else none) = none := by
    refine List.findSome?_eq_none_iff.mpr fun line mem => ?_
    have other := first line mem
    cases parts : splitOnce ':' (trim line) with
    | none => rfl
    | some parts' =>
      simp only [isBinaryPathLine, parts, Option.any_some, Bool.or_eq_false_iff] at other
      simp [other.2]
  refine ⟨((rest ++ tail).rdropWhile isWhitespace).rdropWhile isWhitespace, ?_⟩
  unfold windowsServiceCommandFromScQcOutput
  rw [listing, List.findSome?_append, earlier, Option.none_or, List.findSome?_cons, trimmed,
    splitOnce_ofList colon]
  have same : eqIgnoreAsciiCase "BINARY_PATH_NAME" "BINARY_PATH_NAME" = true := by simp [eqIgnoreAsciiCase]
  simp only [Option.bind_some, name, value, same, if_true]

theorem windowsCommandLineProgram_serviceCommand {program : List Char} (whole : '"' ∉ program)
    (config rest : List Char) :
    windowsCommandLineProgram (.ofList (serviceCommand program config rest)) = some (.ofList program) := by
  have start : trimStart (.ofList (serviceCommand program config rest)) =
      .ofList ("\"".toList ++ (program ++ '"' :: (" daemon --service --config ".toList ++
        '"' :: (config ++ '"' :: rest)))) := by
    unfold trimStart
    refine congrArg String.ofList ((congrArg _ String.toList_ofList).trans ?_)
    rw [serviceCommand, ← List.nil_append ('"' :: _), dropWhile_append_cons (by decide)]
    rfl
  have filled : String.ofList ("\"".toList ++ (program ++ '"' :: (" daemon --service --config ".toList ++
        '"' :: (config ++ '"' :: rest)))) ≠ "" := by
    rw [Ne, String.ofList_eq_empty_iff]
    simp
  unfold windowsCommandLineProgram
  rw [start]
  simp only [filled, if_false, stripPrefix_ofList, splitOnce_ofList whole, Option.map_some]

/-! ## The configuration in the command line -/

/-- What the flag search finds in the text of a path with doubled backslashes. -/
theorem afterFirst_doubled {pat : List Char} (ne : pat ≠ []) (absent : '\\' ∉ pat) (path : List Char)
    (n : Nat) : afterFirst pat (path ++ List.replicate n '\\') =
      (afterFirst pat path).map fun rest => rest ++ List.replicate n '\\' := by
  have none' (n : Nat) : afterFirst pat (List.replicate n '\\') = none := by
    induction n with
    | zero => simp [afterFirst, ne]
    | succ n ih =>
      have cut := afterFirst_append_cons ne absent [] (List.replicate n '\\')
      rw [List.replicate_succ, ← List.nil_append ('\\' :: _), cut]
      simp [afterFirst, ne, ih]
  cases n with
  | zero => simp
  | succ n =>
    rw [List.replicate_succ, afterFirst_append_cons ne absent, none']
    cases afterFirst pat path <;> rfl

/-- Without the flag in the program the first occurrence is the flag itself. -/
theorem afterFirst_serviceCommand (path config rest : List Char) (n : Nat) :
    afterFirst "--config".toList (serviceCommand (path ++ List.replicate n '\\') config rest) =
      match afterFirst "--config".toList path with
      | some found => some (found ++ List.replicate n '\\' ++ '"' :: (" daemon --service --config ".toList ++
          '"' :: (config ++ '"' :: rest)))
      | none => some (' ' :: '"' :: (config ++ '"' :: rest)) := by
  have ne : "--config".toList ≠ [] := by decide
  have noQuote : '"' ∉ "--config".toList := by decide
  have noBackslash : '\\' ∉ "--config".toList := by decide
  have empty : afterFirst "--config".toList [] = none := by decide
  have middle : afterFirst "--config".toList " daemon --service --config ".toList = some [' '] := by decide
  rw [serviceCommand, ← List.nil_append ('"' :: _), afterFirst_append_cons ne noQuote, empty]
  dsimp only
  rw [afterFirst_append_cons ne noQuote, afterFirst_doubled ne noBackslash]
  cases afterFirst "--config".toList path with
  | some found => rfl
  | none =>
    simp only [Option.map_none]
    rw [afterFirst_append_cons ne noQuote, middle]
    rfl

/-- The path of the configuration is read back: the program does not contain the flag and the path does not
end in a backslash, or what follows the flag in the program happens to be the path. -/
def ConfigReadable (executable configPath : List Char) : Prop :=
  match afterFirst "--config".toList executable with
  | none => configPath.getLast? ≠ some '\\'
  | some found =>
    let word := found.dropWhile isWhitespace
    word = [] ∧ configPath = " daemon --service --config ".toList ∨
      word.any isWhitespace ∧ configPath = word.takeWhile fun c => !isWhitespace c

theorem append_replicate_eq_self {α : Type} {l : List α} {a : α} {n : Nat} :
    l ++ List.replicate n a = l ↔ n = 0 := by
  simp

theorem afterFirst_eq_some {pat l found : List Char} (h : afterFirst pat l = some found) :
    ∃ before, l = before ++ pat ++ found := by
  induction l with
  | nil =>
    simp only [afterFirst] at h
    split at h
    · next empty =>
      obtain rfl := Option.some.inj h
      exact ⟨[], by simp [empty]⟩
    · cases h
  | cons c l ih =>
    rw [afterFirst] at h
    split at h
    · next starts =>
      obtain rfl := Option.some.inj h
      refine ⟨[], ?_⟩
      obtain ⟨tail, eq⟩ := List.isPrefixOf_iff_prefix.mp starts
      rw [← eq]
      simp
    · obtain ⟨before, eq⟩ := ih h
      exact ⟨c :: before, by simp [eq]⟩

/-- The value that follows a flag, when it is quoted. -/
theorem flagValue_quoted {pad value : List Char} (blank : ∀ c ∈ pad, isWhitespace c = true)
    (whole : '"' ∉ value) (rest : List Char) {command flag : String}
    (found : afterFirst flag.toList command.toList = some (pad ++ '"' :: (value ++ '"' :: rest))) :
    windowsCommandLineValueForFlag command flag = some (.ofList value) := by
  have start : trimStart (.ofList (pad ++ '"' :: (value ++ '"' :: rest))) =
      .ofList ("\"".toList ++ (value ++ '"' :: rest)) := by
    unfold trimStart
    refine congrArg String.ofList ((congrArg _ String.toList_ofList).trans ?_)
    rw [dropWhile_append_cons (by decide), dropWhile_whitespace blank]
    rfl
  have filled : String.ofList ("\"".toList ++ (value ++ '"' :: rest)) ≠ "" := by
    rw [Ne, String.ofList_eq_empty_iff]
    simp
  unfold windowsCommandLineValueForFlag
  rw [found]
  simp only [Option.bind_eq_bind, Option.bind_some, start, filled, if_false, stripPrefix_ofList,
    splitOnce_ofList whole, Option.map_some]

/-- The value that follows a flag, when it is not quoted. -/
theorem flagValue_bare {text : List Char} {command flag : String}
    (found : afterFirst flag.toList command.toList = some text) {first : Char} {more : List Char}
    (start : text.dropWhile isWhitespace = first :: more) (bare : first ≠ '"') :
    windowsCommandLineValueForFlag command flag =
      some (.ofList ((text.dropWhile isWhitespace).takeWhile fun c => !isWhitespace c)) := by
  have trimmed : trimStart (.ofList text) = .ofList (first :: more) := by
    unfold trimStart
    exact congrArg String.ofList ((congrArg _ String.toList_ofList).trans start)
  have filled : String.ofList (first :: more) ≠ "" := by
    rw [Ne, String.ofList_eq_empty_iff]
    simp
  have unquoted : stripPrefix "\"" (.ofList (first :: more)) = none := by
    have opens : startsWith "\"" (.ofList (first :: more)) = false := by
      rw [startsWith, show "\"".toList = ['"'] from rfl, String.toList_ofList]
      simp [List.isPrefixOf, Ne.symm bare]
    rw [stripPrefix, if_neg (by rw [opens]; decide)]
  unfold windowsCommandLineValueForFlag
  rw [found]
  simp only [Option.bind_eq_bind, Option.bind_some, trimmed, filled, if_false, unquoted, start,
    String.toList_ofList]

theorem windowsCommandLineValueForFlag_iff {path config : List Char} (quotes : '"' ∉ path)
    (quotes' : '"' ∉ config) {n m : Nat} (last : n = 0 ↔ path.getLast? ≠ some '\\')
    (last' : m = 0 ↔ config.getLast? ≠ some '\\') (rest : List Char) :
    windowsCommandLineValueForFlag (.ofList (serviceCommand (path ++ List.replicate n '\\')
        (config ++ List.replicate m '\\') rest)) "--config" = some (.ofList config) ↔
      ConfigReadable path config := by
  have search := afterFirst_serviceCommand path (config ++ List.replicate m '\\') rest n
  rw [← String.toList_ofList (l := serviceCommand _ _ _)] at search
  unfold ConfigReadable
  cases found : afterFirst "--config".toList path with
  | none =>
    rw [found] at search
    have whole : '"' ∉ config ++ List.replicate m '\\' := by simp [quotes']
    have value := @flagValue_quoted [' '] _ (by decide) whole rest _ _ search
    rw [value, Option.some_inj, String.ofList_inj, append_replicate_eq_self, last']
  | some after =>
    rw [found] at search
    obtain ⟨before, eq⟩ := afterFirst_eq_some found
    have quotes'' : '"' ∉ after := fun mem => quotes (by simp [eq, mem])
    dsimp only at search ⊢
    cases word : after.dropWhile isWhitespace with
    | nil =>
      -- The closing quote of the program opens the value.
      have blank : ∀ c ∈ after, isWhitespace c = true := List.dropWhile_eq_nil_iff.mp word
      have single : n = 0 := by
        rw [last, eq]
        rcases List.eq_nil_or_concat after with rfl | ⟨init, c, rfl⟩
        · rw [List.append_nil, show "--config".toList = "--confi".toList ++ ['g'] from by decide]
          simp
        · have white := blank c (by simp)
          have backslash : isWhitespace '\\' = false := by decide
          simp only [List.concat_eq_append, ← List.append_assoc, List.getLast?_concat, ne_eq,
            Option.some_inj]
          rintro rfl
          rw [backslash] at white
          cases white
      subst single
      have middle : '"' ∉ " daemon --service --config ".toList := by decide
      have value := flagValue_quoted blank middle _ (search.trans (by rw [List.replicate_zero, List.append_nil]))
      rw [value, Option.some_inj, String.ofList_inj]
      simp [eq_comm]
    | cons first more =>
      have inside : first ∈ after := (List.dropWhile_suffix _).subset (by rw [word]; exact List.mem_cons_self)
      have bare : first ≠ '"' := fun same => quotes'' (same ▸ inside)
      have start (tail : List Char) : (after ++ tail).dropWhile isWhitespace = first :: (more ++ tail) := by
        rw [List.dropWhile_append, word]
        rfl
      rw [List.append_assoc] at search
      rw [flagValue_bare search (start _) bare, start, Option.some_inj, String.ofList_inj,
        ← List.cons_append]
      cases spaced : (first :: more).any isWhitespace with
      | true =>
        have cut : ((first :: more).takeWhile fun c => !isWhitespace c).length ≠ (first :: more).length := by
          intro same
          have all := (List.takeWhile_prefix _).eq_of_length same
          rw [List.takeWhile_eq_self_iff] at all
          obtain ⟨c, mem, white⟩ := List.any_eq_true.mp spaced
          simpa [white] using all c mem
        rw [List.takeWhile_append, if_neg cut]
        refine ⟨fun same => .inr ⟨rfl, same.symm⟩, ?_⟩
        rintro (⟨empty, -⟩ | ⟨-, same⟩)
        · cases empty
        · exact same.symm
      | false =>
        have all : ∀ c ∈ first :: more, (!isWhitespace c) = true := by simpa using spaced
        have quoted : '"' ∈ (List.replicate n '\\' ++ '"' :: (" daemon --service --config ".toList ++
            '"' :: (config ++ List.replicate m '\\' ++ '"' :: rest))).takeWhile fun c => !isWhitespace c := by
          rw [List.takeWhile_append_of_pos fun c mem => by rw [List.eq_of_mem_replicate mem]; decide]
          simp [show isWhitespace '"' = false by decide]
        rw [List.takeWhile_append_of_pos all]
        refine iff_of_false (fun same => quotes' ?_) (by simp)
        rw [← same]
        exact List.mem_append_right _ quoted

/-! ## The systemd unit -/

def systemdEscape (c : Char) : List Char :=
  if c = '\\' then ['\\', '\\'] else if c = '"' then ['\\', '"'] else [c]

theorem toList_systemdQuote (value : String) :
    (systemdQuote value).toList = '"' :: (value.toList.flatMap systemdEscape ++ ['"']) := by
  have backslash : "\\\\".toList = ['\\', '\\'] := by decide
  have quote : "\\\"".toList = ['\\', '"'] := by decide
  have pieces : (value.toList.flatMap fun c => if c = '\\' then ['\\', '\\'] else [c]).flatMap
      (fun c => if c = '"' then ['\\', '"'] else [c]) = value.toList.flatMap systemdEscape := by
    rw [List.flatMap_assoc]
    refine List.flatMap_congr fun c _ => ?_
    unfold systemdEscape
    by_cases h : c = '\\'
    · rw [h]; rfl
    · by_cases h' : c = '"'
      · rw [h']; rfl
      · simp [h, h']
  simp only [systemdQuote, replaceChar, String.toList_append, String.toList_ofList, backslash, quote, pieces]
  rfl

theorem flatMap_systemdEscape_eq_self {l : List Char} :
    l.flatMap systemdEscape = l ↔ ∀ c ∈ l, c ≠ '\\' ∧ c ≠ '"' := by
  have longer (l : List Char) : l.length ≤ (l.flatMap systemdEscape).length := by
    induction l with
    | nil => simp
    | cons c l ih =>
      have one : 1 ≤ (systemdEscape c).length := by unfold systemdEscape; split_ifs <;> simp
      rw [List.flatMap_cons, List.length_append, List.length_cons]
      omega
  induction l with
  | nil => simp
  | cons c l ih =>
    rw [List.flatMap_cons, List.forall_mem_cons]
    by_cases plain : c ≠ '\\' ∧ c ≠ '"'
    · have one : systemdEscape c = [c] := by simp [systemdEscape, plain]
      rw [one, List.singleton_append, List.cons_inj_right]
      exact ih.trans (by simp [plain])
    · have two : (systemdEscape c).length = 2 := by
        unfold systemdEscape
        split_ifs with h h'
        · rfl
        · rfl
        · exact absurd ⟨h, h'⟩ plain
      refine iff_of_false (fun same => ?_) fun all => plain all.1
      have lengths := congrArg List.length same
      rw [List.length_append, two, List.length_cons] at lengths
      have := longer l
      omega

/-- A line without a command is passed over. -/
theorem execStartOf_skip {line : String} (rest : String) (whole : '\n' ∉ line.toList)
    (other : stripPrefix "ExecStart=" (trim (.ofList (stripCarriageReturn line.toList))) = none) :
    execStartOf (lines (line ++ "\n" ++ rest)) = execStartOf (lines rest) := by
  rw [lines_append rest whole, execStartOf, other]

/-- The end of a line that holds a quote is trimmed behind the quote. -/
theorem stripCarriageReturn_append_cons (x y : List Char) :
    ∃ y', stripCarriageReturn (x ++ '"' :: y) = x ++ '"' :: y' := by
  unfold stripCarriageReturn
  split
  · next ends =>
    cases y with
    | nil => simp at ends
    | cons c y => exact ⟨(c :: y).dropLast, by simp [List.dropLast_append_of_ne_nil]⟩
  · exact ⟨y, rfl⟩

/-- The program of the first command line, up to the first quote that follows. -/
theorem execStartOf_quoted {program : List Char} (whole : '"' ∉ program) (y : List Char)
    (nonblank : isBlank (.ofList program) = false) (rest : String) {line : String}
    (unbroken : '\n' ∉ line.toList)
    (eq : line.toList = "ExecStart=".toList ++ '"' :: (program ++ '"' :: y)) :
    execStartOf (lines (line ++ "\n" ++ rest)) = some (.ofList program) := by
  obtain ⟨y', stripped⟩ := stripCarriageReturn_append_cons ("ExecStart=".toList ++ '"' :: program) y
  have whole' : line.toList = ("ExecStart=".toList ++ '"' :: program) ++ '"' :: y := by
    rw [eq]
    simp
  have start : ("ExecStart=".toList ++ '"' :: program).dropWhile isWhitespace =
      "ExecStart=".toList ++ '"' :: program := by
    rw [show "ExecStart=".toList = 'E' :: "xecStart=".toList from by decide]
    rfl
  have trimmed : trim (.ofList (stripCarriageReturn line.toList)) = .ofList ("ExecStart=".toList ++
      ("\"".toList ++ (program ++ '"' :: y'.rdropWhile isWhitespace))) := by
    rw [whole', stripped, trim_append_cons (by decide), start]
    simp
  rw [lines_append rest unbroken, execStartOf, trimmed, stripPrefix_ofList]
  simp only [stripPrefix_ofList, splitOnce_ofList whole, nonblank]
  rfl

theorem newline_notMem_systemdQuote {value : String} (h : '\n' ∉ value.toList) :
    '\n' ∉ (systemdQuote value).toList := by
  have escaped : '\n' ∉ value.toList.flatMap systemdEscape := by
    intro mem
    obtain ⟨c, inside, here⟩ := List.mem_flatMap.mp mem
    unfold systemdEscape at here
    split_ifs at here
    · simp at here
    · simp at here
    · exact h (List.mem_singleton.mp here ▸ inside)
  simp [toList_systemdQuote, escaped]

theorem newline_notMem_fmtNat (n : Nat) : '\n' ∉ (fmtNat n).toList := by
  intro mem
  have digit := @toDigit_of_mem_fmtRadix 10 (by decide) (by decide) n '\n' (by simpa [fmtNat] using mem)
  have none : toDigit 10 '\n' = none := by decide
  simp [none] at digit

/-- The unit gives back the program up to the first quote that was written. -/
theorem linuxServiceExecutablePath_of_unit {executable configPath iface : String} (announceIntervalSecs : Nat)
    (logPath : String) (h : '\n' ∉ executable.toList) (h₁ : '\n' ∉ configPath.toList)
    (h₂ : '\n' ∉ iface.toList) {program y : List Char} (whole : '"' ∉ program)
    (nonblank : isBlank (.ofList program) = false)
    (written : executable.toList.flatMap systemdEscape ++ ['"'] = program ++ '"' :: y) :
    linuxServiceExecutablePathFromUnitContents
      (linuxServiceUnitContent executable configPath iface announceIntervalSecs logPath) =
      some (.ofList program) := by
  have flat (line rest : String) :
      "[Unit]\nDescription=Nostr VPN daemon\nAfter=network-online.target\nWants=network-online.target\n\n[Service]\nType=simple\n" ++
        line ++ "\n" ++ rest =
      "[Unit]" ++ "\n" ++ ("Description=Nostr VPN daemon" ++ "\n" ++ ("After=network-online.target" ++ "\n" ++
        ("Wants=network-online.target" ++ "\n" ++ ("" ++ "\n" ++ ("[Service]" ++ "\n" ++
          ("Type=simple" ++ "\n" ++ (line ++ "\n" ++ rest))))))) := by
    have head : "[Unit]\nDescription=Nostr VPN daemon\nAfter=network-online.target\nWants=network-online.target\n\n[Service]\nType=simple\n" =
        "[Unit]" ++ "\n" ++ ("Description=Nostr VPN daemon" ++ "\n" ++ ("After=network-online.target" ++ "\n" ++
          ("Wants=network-online.target" ++ "\n" ++ ("" ++ "\n" ++ ("[Service]" ++ "\n" ++
            ("Type=simple" ++ "\n")))))) := by decide +kernel
    rw [head]
    simp only [String.append_assoc]
  obtain ⟨line, rest, content, lineEq⟩ : ∃ line rest,
      linuxServiceUnitContent executable configPath iface announceIntervalSecs logPath =
        "[Unit]\nDescription=Nostr VPN daemon\nAfter=network-online.target\nWants=network-online.target\n\n[Service]\nType=simple\n" ++
          line ++ "\n" ++ rest ∧
      line = "ExecStart=" ++ systemdQuote executable ++ " daemon --service --config " ++
        systemdQuote configPath ++ " --iface " ++ systemdQuote iface ++ " --announce-interval-secs " ++
          fmtNat announceIntervalSecs := ⟨_, _, rfl, rfl⟩
  have unbroken : '\n' ∉ line.toList := by
    rw [lineEq]
    simp only [String.toList_append, List.mem_append, newline_notMem_systemdQuote h,
      newline_notMem_systemdQuote h₁, newline_notMem_systemdQuote h₂, newline_notMem_fmtNat, or_false]
    decide
  have opened : ∃ y', line.toList = "ExecStart=".toList ++ '"' :: (program ++ '"' :: y') := by
    refine ⟨y ++ (" daemon --service --config ".toList ++ (systemdQuote configPath).toList ++
      " --iface ".toList ++ (systemdQuote iface).toList ++ " --announce-interval-secs ".toList ++
        (fmtNat announceIntervalSecs).toList), ?_⟩
    have front := congrArg (fun l => "ExecStart=".toList ++ '"' :: (l ++
      (" daemon --service --config ".toList ++ (systemdQuote configPath).toList ++
        " --iface ".toList ++ (systemdQuote iface).toList ++ " --announce-interval-secs ".toList ++
          (fmtNat announceIntervalSecs).toList))) written
    simpa only [lineEq, String.toList_append, toList_systemdQuote executable, List.append_assoc,
      List.cons_append] using front
  obtain ⟨y', eq⟩ := opened
  unfold linuxServiceExecutablePathFromUnitContents
  rw [content, flat, execStartOf_skip _ (by decide +kernel) (by decide +kernel),
    execStartOf_skip _ (by decide +kernel) (by decide +kernel),
    execStartOf_skip _ (by decide +kernel) (by decide +kernel),
    execStartOf_skip _ (by decide +kernel) (by decide +kernel),
    execStartOf_skip _ (by decide +kernel) (by decide +kernel),
    execStartOf_skip _ (by decide +kernel) (by decide +kernel),
    execStartOf_skip _ (by decide +kernel) (by decide +kernel)]
  exact execStartOf_quoted whole y' nonblank rest unbroken eq

theorem isBlank_ofList (l : List Char) : isBlank (.ofList l) = true ↔ ∀ c ∈ l, isWhitespace c = true := by
  rw [isBlank, beq_iff_eq, trim, String.toList_ofList, String.ofList_eq_empty_iff,
    List.rdropWhile_eq_nil_iff]
  refine ⟨fun all => ?_, fun all c mem => all c ((List.dropWhile_suffix _).subset mem)⟩
  rw [← List.dropWhile_eq_nil_iff]
  cases start : l.dropWhile isWhitespace with
  | nil => rfl
  | cons c rest =>
    have stays := List.head?_dropWhile_not isWhitespace l
    rw [start] at all stays
    simp [all c List.mem_cons_self] at stays

/-- The unit gives back a path without backslashes and quotes, and no other. -/
theorem linux_round_trips_iff {executable configPath iface : String} (announceIntervalSecs : Nat)
    (logPath : String) (nonblank : isBlank executable = false) (h : '\n' ∉ executable.toList)
    (h₁ : '\n' ∉ configPath.toList) (h₂ : '\n' ∉ iface.toList) :
    linuxServiceExecutablePathFromUnitContents
        (linuxServiceUnitContent executable configPath iface announceIntervalSecs logPath) =
      some executable ↔ ∀ c ∈ executable.toList, c ≠ '\\' ∧ c ≠ '"' := by
  have keeps (c : Char) : c ∈ systemdEscape c := by
    unfold systemdEscape
    split_ifs with h h' <;> simp [*]
  have noQuote {l : List Char} (free : '"' ∉ l) : '"' ∉ l.flatMap systemdEscape := by
    intro mem
    obtain ⟨c, inside, here⟩ := List.mem_flatMap.mp mem
    unfold systemdEscape at here
    split_ifs at here with backslash quote
    · simp at here
    · exact free (quote ▸ inside)
    · exact free (List.mem_singleton.mp here ▸ inside)
  by_cases quoted : '"' ∈ executable.toList
  · obtain ⟨before, after, eq, free⟩ := List.eq_append_cons_of_mem quoted
    have whole : '"' ∉ before.flatMap systemdEscape ++ ['\\'] := by simp [noQuote free]
    have filled : isBlank (.ofList (before.flatMap systemdEscape ++ ['\\'])) = false := by
      rw [← Bool.not_eq_true, isBlank_ofList]
      exact fun all => absurd (all '\\' (by simp)) (by decide)
    have written : executable.toList.flatMap systemdEscape ++ ['"'] =
        (before.flatMap systemdEscape ++ ['\\']) ++ '"' :: (after.flatMap systemdEscape ++ ['"']) := by
      simp [eq, systemdEscape]
    rw [linuxServiceExecutablePath_of_unit announceIntervalSecs logPath h h₁ h₂ whole filled written]
    refine iff_of_false (fun same => whole ?_) fun all => (all '"' quoted).2 rfl
    have text := congrArg String.toList (Option.some.inj same)
    rw [String.toList_ofList] at text
    exact text ▸ quoted
  · have filled : isBlank (.ofList (executable.toList.flatMap systemdEscape)) = false := by
      rw [← Bool.not_eq_true, isBlank_ofList]
      intro all
      rw [← String.ofList_toList (s := executable), ← Bool.not_eq_true, isBlank_ofList] at nonblank
      exact nonblank fun c mem => all c (List.mem_flatMap.mpr ⟨c, mem, keeps c⟩)
    rw [linuxServiceExecutablePath_of_unit announceIntervalSecs logPath h h₁ h₂ (noQuote quoted) filled
      (y := []) (by simp), Option.some_inj, ← flatMap_systemdEscape_eq_self, ← String.toList_inj,
      String.toList_ofList]

/-- When a registration round-trips. -/
theorem registration_round_trips_iff {executable configPath iface : String} (announceIntervalSecs : Nat)
    (logPath : String) (nonblank : isBlank executable = false) (h : '\n' ∉ executable.toList)
    (h₁ : '\n' ∉ configPath.toList) (h₂ : '\n' ∉ iface.toList) :
    (linuxServiceExecutablePathFromUnitContents
        (linuxServiceUnitContent executable configPath iface announceIntervalSecs logPath) =
      some executable ↔ ∀ c ∈ executable.toList, c ≠ '\\' ∧ c ≠ '"') ∧
    ('"' ∉ executable.toList → '"' ∉ configPath.toList → ∀ output,
      Lists output (windowsServiceBinPath executable configPath iface announceIntervalSecs) →
      (windowsServiceBinaryPathFromScQcOutput output = some executable ∧
          coreServiceBinaryPathFromScQcOutput output = some executable ∧
          windowsServiceConfigPathFromScQcOutput output = some configPath ↔
        executable.toList.getLast? ≠ some '\\' ∧
          ConfigReadable executable.toList configPath.toList)) ∧
    ∀ s, xmlUnescape (xmlEscape s) = s := by
  refine ⟨linux_round_trips_iff announceIntervalSecs logPath nonblank h h₁ h₂,
    fun noQuote noQuote' output listed => ?_, xmlUnescape_xmlEscape⟩
  obtain ⟨n, m, rest, last, last', eq⟩ :=
    toList_windowsServiceBinPath iface announceIntervalSecs noQuote noQuote'
  have whole : '"' ∉ executable.toList ++ List.replicate n '\\' := by simp [noQuote]
  have filled : isBlank (.ofList (executable.toList ++ List.replicate n '\\')) = false := by
    rw [← String.ofList_toList (s := executable), ← Bool.not_eq_true, isBlank_ofList] at nonblank
    rw [← Bool.not_eq_true, isBlank_ofList]
    exact fun all => nonblank fun c mem => all c (List.mem_append_left _ mem)
  obtain ⟨rest', command⟩ := serviceCommand_of_lists listed eq
  have config := windowsCommandLineValueForFlag_iff noQuote noQuote' last last' rest'
  have program (text : List Char) : some (String.ofList text) = some executable ↔
      text = executable.toList := by
    rw [Option.some_inj, ← String.toList_inj, String.toList_ofList]
  rw [String.ofList_toList] at config
  rw [windowsServiceBinaryPath_of_lists listed eq whole filled, coreServiceBinaryPathFromScQcOutput,
    windowsServiceConfigPathFromScQcOutput, command, Option.bind_some, Option.bind_some,
    windowsCommandLineProgram_serviceCommand whole, config, program, append_replicate_eq_self, last]
  exact ⟨fun all => all.2, fun all => ⟨all.1, all⟩⟩

def sampleListing (command : String) : String :=
  "SERVICE_NAME: nvpn" ++ "\n" ++
    ("        BINARY_PATH_NAME   : " ++ command ++ "\r" ++ "\n" ++ "        ERROR_CONTROL      : 1")

theorem lines_sampleListing {command : String} (h : '\n' ∉ command.toList) :
    lines (sampleListing command) =
      ["SERVICE_NAME: nvpn"] ++ .ofList ("        BINARY_PATH_NAME   : ".toList ++ command.toList) ::
        ["        ERROR_CONTROL      : 1"] := by
  have free : '\n' ∉ "        BINARY_PATH_NAME   : ".toList := by decide +kernel
  have whole : '\n' ∉ ("        BINARY_PATH_NAME   : " ++ command ++ "\r").toList := by
    rw [String.toList_append, String.toList_append, List.mem_append, List.mem_append]
    exact fun mem => mem.elim (fun mem => mem.elim free h) (by decide +kernel)
  have line : stripCarriageReturn ("        BINARY_PATH_NAME   : " ++ command ++ "\r").toList =
      "        BINARY_PATH_NAME   : ".toList ++ command.toList := by
    have cr : "\r".toList = ['\r'] := by decide +kernel
    rw [String.toList_append, String.toList_append, cr, stripCarriageReturn, List.getLast?_concat,
      if_pos rfl, List.dropLast_concat]
  have first : String.ofList (stripCarriageReturn "SERVICE_NAME: nvpn".toList) = "SERVICE_NAME: nvpn" := by
    decide +kernel
  have last : lines "        ERROR_CONTROL      : 1" = ["        ERROR_CONTROL      : 1"] := by
    decide +kernel
  exact (lines_append _ (by decide +kernel)).trans (congrArg₂ List.cons first
    ((lines_append _ whole).trans (congrArg₂ List.cons (congrArg String.ofList line) last)))

theorem sampleListing_lists {command : String} (h : '\n' ∉ command.toList) :
    Lists (sampleListing command) command := by
  have head : "        ".toList ++ "BINARY_PATH_NAME".toList ++ "   ".toList ++ ':' :: [' '] =
      "        BINARY_PATH_NAME   : ".toList := by decide +kernel
  refine ⟨["SERVICE_NAME: nvpn"], "        ".toList, "   ".toList, [' '], [],
    ["        ERROR_CONTROL      : 1"], ?_, by decide +kernel, by decide +kernel⟩
  rw [lines_sampleListing h, ← head, List.append_nil, List.append_assoc _ (':' :: [' '])]
  simp only [List.cons_append, List.nil_append]

def sampleBinPath : String := windowsServiceBinPath "C:\\nvpn.exe" "C:\\nvpn.toml" "nvpn" 20

theorem registration_round_trips_sample :
    linuxServiceExecutablePathFromUnitContents
        (linuxServiceUnitContent "/usr/bin/nvpn" "/etc/nvpn.toml" "nvpn" 20 "/var/log/nvpn.log") =
      some "/usr/bin/nvpn" ∧
    windowsServiceBinaryPathFromScQcOutput (sampleListing sampleBinPath) = some "C:\\nvpn.exe" ∧
    coreServiceBinaryPathFromScQcOutput (sampleListing sampleBinPath) = some "C:\\nvpn.exe" ∧
    windowsServiceConfigPathFromScQcOutput (sampleListing sampleBinPath) = some "C:\\nvpn.toml" := by
  have linux := @registration_round_trips_iff "/usr/bin/nvpn" "/etc/nvpn.toml" "nvpn" 20 "/var/log/nvpn.log"
    (by decide +kernel) (by decide +kernel) (by decide +kernel) (by decide +kernel)
  have windows := @registration_round_trips_iff "C:\\nvpn.exe" "C:\\nvpn.toml" "nvpn" 20 "/var/log/nvpn.log"
    (by decide +kernel) (by decide +kernel) (by decide +kernel) (by decide +kernel)
  refine ⟨linux.1.mpr (by decide +kernel), ?_⟩
  refine (windows.2.1 (by decide +kernel) (by decide +kernel) _
    (sampleListing_lists (by decide +kernel))).mpr ⟨by decide +kernel, ?_⟩
  have none' : afterFirst "--config".toList "C:\\nvpn.exe".toList = none := by decide +kernel
  rw [ConfigReadable, none']
  decide +kernel

/-- The program of a registration that contains the flag. -/
def flagBinPath : String := windowsServiceBinPath "C:\\nvpn--config\\nvpn.exe" "C:\\nvpn.toml" "nvpn" 20

/-- A backslash comes back doubled from the unit, and a program that contains the flag hides the path of the
configuration. -/
theorem backslash_and_flag_do_not_round_trip :
    linuxServiceExecutablePathFromUnitContents
        (linuxServiceUnitContent "/opt/a\\b" "/etc/nvpn.toml" "nvpn" 20 "/var/log/nvpn.log") =
      some "/opt/a\\\\b" ∧
    Lists (sampleListing flagBinPath) flagBinPath ∧
    windowsServiceConfigPathFromScQcOutput (sampleListing flagBinPath) ≠ some "C:\\nvpn.toml" := by
  have linux := @linuxServiceExecutablePath_of_unit "/opt/a\\b" "/etc/nvpn.toml" "nvpn" 20 "/var/log/nvpn.log"
    (by decide +kernel) (by decide +kernel) (by decide +kernel) "/opt/a\\\\b".toList [] (by decide +kernel)
    (by decide +kernel) (by decide +kernel)
  have listed : Lists (sampleListing flagBinPath) flagBinPath := sampleListing_lists (by decide +kernel)
  refine ⟨by rwa [String.ofList_toList] at linux, listed, fun read => ?_⟩
  have noQuote : '"' ∉ "C:\\nvpn--config\\nvpn.exe".toList := by decide +kernel
  have noQuote' : '"' ∉ "C:\\nvpn.toml".toList := by decide +kernel
  obtain ⟨n, m, rest, last, last', eq⟩ := toList_windowsServiceBinPath "nvpn" 20 noQuote noQuote'
  obtain ⟨rest', command⟩ := serviceCommand_of_lists listed eq
  have iff := windowsCommandLineValueForFlag_iff noQuote noQuote' last last' rest'
  rw [String.ofList_toList] at iff
  rw [windowsServiceConfigPathFromScQcOutput, command, Option.bind_some, iff] at read
  have found : afterFirst "--config".toList "C:\\nvpn--config\\nvpn.exe".toList =
      some "\\nvpn.exe".toList := by decide +kernel
  rw [ConfigReadable, found] at read
  revert read
  decide +kernel

end NostrVpn.Cli
