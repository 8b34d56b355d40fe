import InitPad.Hosting.Removal

/-!
# InitPad.Hosting.ShellRemoval

Removal with shell commands on a user's own server. A command reports its exit code, unless that is
lost; the names below the remote root differ in their last characters, so that the scripts of one
deployment stay apart.
-/

namespace InitPad.Hosting

open Store Interleave Prog

variable {m m' m₁ : HostsMoment} {rest rest₁ rest₂ : List HostsEvent}

/-! ## Shell commands -/

def Stmt.script? {β : Type} : Stmt β → Option (List ShellStep)
  | .exec script => some script
  | _ => none

theorem removal_script {q : Path} {β : Type} {e : Stmt β} (h : e.removal q) :
    e.script? = none := by
  cases e <;> first | rfl | cases h

theorem aside_script {β : Type} {e : Stmt β} (h : e.aside) : e.script? = none := by
  cases e <;> first | rfl | cases h

/-- A shell command with `P` was executed. -/
def Ran (rest : List HostsEvent) (P : List ShellStep → Reply → Prop) : Prop :=
  ∃ ev ∈ rest, ∃ script, ev.stmt.script? = some script ∧ P script ev.input

section Ran

variable {P : List ShellStep → Reply → Prop}

theorem Ran.mono {P' : List ShellStep → Reply → Prop} (h : Ran rest P)
    (hP : ∀ script i, P script i → P' script i) : Ran rest P' := by
  obtain ⟨ev, hev, script, hscript, hran⟩ := h
  exact ⟨ev, hev, script, hscript, hP _ _ hran⟩

theorem ran_append : Ran (rest₁ ++ rest₂) P ↔ Ran rest₁ P ∨ Ran rest₂ P := by
  constructor
  · rintro ⟨ev, hev, hP⟩
    rcases List.mem_append.mp hev with hev | hev
    · exact .inl ⟨ev, hev, hP⟩
    · exact .inr ⟨ev, hev, hP⟩
  · rintro (⟨ev, hev, hP⟩ | ⟨ev, hev, hP⟩)
    · exact ⟨ev, List.mem_append_left _ hev, hP⟩
    · exact ⟨ev, List.mem_append_right _ hev, hP⟩

theorem ran_self {t : Nat} {script : List ShellStep} {i : Reply} {x : Except Failure Exit} :
    Ran [⟨t, .exec script, i, x⟩] P ↔ P script i := by
  constructor
  · rintro ⟨ev, hev, script', hscript, hP⟩
    obtain rfl := List.mem_singleton.mp hev
    cases hscript
    exact hP
  · exact fun hP => ⟨_, .head _, script, rfl, hP⟩

theorem not_ran_of (hrest : ∀ ev ∈ rest, ∀ script, ev.stmt.script? = some script →
    ¬ P script ev.input) : ¬ Ran rest P := by
  rintro ⟨ev, hev, script, hscript, hP⟩
  exact hrest ev hev script hscript hP

theorem not_ran (hrest : ∀ ev ∈ rest, ev.stmt.script? = none) : ¬ Ran rest P :=
  not_ran_of fun ev hev script hscript => by
    rw [hrest ev hev] at hscript
    cases hscript

end Ran

structure Executed (m m' : HostsMoment) (script : List ShellStep) (i : Reply) : Prop where
  history : ∃ x, m'.history = m.history ++ [⟨0, .exec script, i, x⟩]
  state : m'.state = m.state.onFiles (runScript i script m.state.files).files

theorem sshExec_ok {script : List ShellStep} {r : ExecResult}
    (h : Ends (sshExec script) m (.ok r) m') :
    ∃ i, Executed m m' script i ∧ r.stdout = (runScript i script m.state.files).stdout ∧
      (r.code = 0 ↔ i.exitLost = true ∨ (runScript i script m.state.files).succeeded = true) := by
  obtain ⟨exit, m₁, hexec, hret⟩ := ends_bind_ok.mp h
  obtain ⟨hr, rfl⟩ := ends_ret.mp hret
  cases hr
  obtain ⟨i, hok, rfl⟩ := ends_await.mp hexec
  have hrun := exec_ok hok.symm
  simp only [Stmt.run] at hrun
  injection hrun with hrun
  injection hrun with hexit hstate
  refine ⟨i, ⟨⟨_, rfl⟩, hstate.symm⟩, ?_, ?_⟩
  · rw [← hexit]
  · rw [← hexit]
    cases i.exitLost with
    | true => simp
    | false => cases (runScript i script m.state.files).succeeded <;> simp

theorem require_ok {message : String} {script : List ShellStep} {r : ExecResult}
    (h : Ends (SftpProvider.require message script) m (.ok r) m') :
    ∃ i, Executed m m' script i ∧
      (i.exitLost = true ∨ (runScript i script m.state.files).succeeded = true) := by
  obtain ⟨result, m₁, hexec, hcode⟩ := ends_bind_ok.mp h
  obtain ⟨i, hexecuted, _, hzero⟩ := sshExec_ok hexec
  split at hcode
  · rename_i h0
    obtain ⟨_, rfl⟩ := ends_ret.mp hcode
    exact ⟨i, hexecuted, hzero.mp h0⟩
  · obtain ⟨hx, _⟩ := ends_ret.mp hcode
    cases hx

theorem execWorks_ends {r : Except Failure Bool} (h : Ends SftpProvider.execWorks m r m') :
    ∃ b i x, r = .ok b ∧ m'.history = m.history ++ [⟨0, .exec [.echo "ok"], i, x⟩] ∧
      m'.state = m.state := by
  have hecho : ∀ (i : Reply), (exec (Stmt.exec [.echo "ok"]) i m.state).2 = m.state := by
    intro i
    rcases exec_state (Stmt.exec [.echo "ok"]) i m.state with hsame | ⟨b, hrun⟩
    · exact hsame
    · simp only [Stmt.run] at hrun
      injection hrun with hrun
      injection hrun with _ hstate
      exact hstate.symm
  rcases ends_tryCatch.mp h with ⟨b, hprobe, rfl⟩ | ⟨error, m₁, hprobe, hret⟩
  · obtain ⟨result, m₁, hexec, hret⟩ := ends_bind_ok.mp hprobe
    obtain ⟨_, rfl⟩ := ends_ret.mp hret
    obtain ⟨exit, m₂, hexec, hret⟩ := ends_bind_ok.mp hexec
    obtain ⟨_, rfl⟩ := ends_ret.mp hret
    obtain ⟨i, _, rfl⟩ := ends_await.mp hexec
    exact ⟨b, i, _, rfl, rfl, hecho i⟩
  · obtain ⟨rfl, rfl⟩ := ends_ret.mp hret
    rcases ends_bind.mp hprobe with ⟨result, m₁, _, hret⟩ | ⟨_, hexec, heq⟩
    · obtain ⟨hx, _⟩ := ends_ret.mp hret
      cases hx
    · rcases ends_bind.mp hexec with ⟨exit, m₁, _, hret⟩ | ⟨_, hexec, _⟩
      · obtain ⟨hx, _⟩ := ends_ret.mp hret
        cases hx
      · obtain ⟨i, _, rfl⟩ := ends_await.mp hexec
        exact ⟨false, i, _, rfl, rfl, hecho i⟩

/-! ## Removal scripts -/

def removalScript (root : Path) (pairs : List (Path × Path)) : List ShellStep :=
  pairs.map fun e => .removeOrQuarantine e.1 root e.2

/-- `y` is apart from everything that a removal script writes. -/
structure Spared (root : Path) (pairs : List (Path × Path)) (y : Path) : Prop where
  apart : ∀ e ∈ pairs, Tree.Apart e.1 y
  quarantine : ∀ e ∈ pairs, Tree.Apart e.2 y
  root : ¬ y <+: root

/-- The paths that a script removes are apart from one another and from the quarantine. -/
structure Disjoint (root : Path) (pairs : List (Path × Path)) : Prop where
  apart : pairs.Pairwise fun e d => Tree.Apart e.1 d.1
  quarantine : ∀ e ∈ pairs, ∀ d ∈ pairs, Tree.Apart e.1 d.2
  root : ∀ e ∈ pairs, ¬ e.1 <+: root

theorem Disjoint.tail {root : Path} {e : Path × Path} {pairs : List (Path × Path)}
    (h : Disjoint root (e :: pairs)) : Disjoint root pairs :=
  ⟨(List.pairwise_cons.mp h.apart).2,
    fun _ ha _ hb => h.quarantine _ (.tail _ ha) _ (.tail _ hb),
    fun _ ha => h.root _ (.tail _ ha)⟩

theorem Disjoint.spared {root : Path} {e : Path × Path} {pairs : List (Path × Path)}
    (h : Disjoint root (e :: pairs)) : Spared root pairs e.1 :=
  ⟨fun d hd => ((List.pairwise_cons.mp h.apart).1 d hd).symm,
    fun d hd => (h.quarantine e (.head _) d (.tail _ hd)).symm, h.root e (.head _)⟩

theorem parents_covers {root x y : Path} {w : Write} (hw : w ∈ parents root) (hx : y <+: x)
    (hroot : ¬ y <+: root) : ¬ w.Covers x := by
  obtain ⟨z, hz, rfl⟩ := List.mem_map.mp hw
  intro hcovers
  obtain rfl : x = z := hcovers
  exact hroot (hx.trans ((List.mem_inits _ _).mp (List.mem_filter.mp hz).1))

theorem Spared.writes {root y : Path} {pairs : List (Path × Path)} (h : Spared root pairs y) :
    ∀ w ∈ (removalScript root pairs).flatMap ShellStep.writes, ∀ x, y <+: x → ¬ w.Covers x := by
  intro w hw x hx
  obtain ⟨step, hstep, hw⟩ := List.mem_flatMap.mp hw
  obtain ⟨e, he, rfl⟩ := List.mem_map.mp hstep
  rcases List.mem_cons.mp hw with rfl | hw
  · exact (h.apart e he).symm.not_prefix hx
  · rcases List.mem_cons.mp hw with rfl | hw
    · exact (h.quarantine e he).symm.not_prefix hx
    · exact parents_covers hw hx h.root

variable {i : Reply} {t : Files} {root : Path} {pairs : List (Path × Path)}

theorem Spared.same {y : Path} (h : Spared root pairs y) {e : Path × Entry} (he : y <+: e.1) :
    SameEntry t (runScript i (removalScript root pairs) t).files e :=
  script_frame fun w hw => h.writes w hw e.1 he

theorem removeOrQuarantine_clear (root : Path) {p q : Path} (hapart : Tree.Apart p q) :
    ((ShellStep.removeOrQuarantine p root q).run i t).succeeded =
      ((ShellStep.removeOrQuarantine p root q).run i t).files.clear p := by
  simp only [ShellStep.run]
  split
  · rename_i hclear
    exact hclear.symm
  · rename_i hleft
    split
    · exact (Bool.eq_false_iff.mpr hleft).symm
    · exact (Tree.clear_move_self hapart).symm

theorem removalScript_clear (h : Disjoint root pairs) :
    (runScript i (removalScript root pairs) t).succeeded = true ↔
      ∀ e ∈ pairs, (runScript i (removalScript root pairs) t).files.clear e.1 = true := by
  induction pairs generalizing t with
  | nil => simp [removalScript, runScript]
  | cons e pairs ih =>
    have hstep := removeOrQuarantine_clear (i := i) (t := t) root
      (h.quarantine e (.head _) e (.head _))
    simp only [removalScript, List.map_cons, runScript]
    split
    · rename_i hok
      have hkept : (runScript i (removalScript root pairs)
          ((ShellStep.removeOrQuarantine e.1 root e.2).run i t).files).files.clear e.1 = true := by
        rw [Tree.clear_congr fun d hd => h.spared.same hd, ← hstep, hok]
      have hrest := ih h.tail (t := ((ShellStep.removeOrQuarantine e.1 root e.2).run i t).files)
      refine hrest.trans ?_
      rw [List.forall_mem_cons]
      exact (and_iff_right hkept).symm
    · rename_i hfailed
      refine iff_of_false hfailed fun hall => hfailed ?_
      rw [hstep]
      exact hall e (.head _)

theorem removalScript_of_clear (pairs : List (Path × Path)) (h : ∀ e ∈ pairs, t.clear e.1 = true) :
    (runScript i (removalScript root pairs) t).succeeded = true := by
  induction pairs generalizing t with
  | nil => rfl
  | cons e pairs ih =>
    have hsub : ∀ d ∈ (t.prune e.1 i.denied).entries, d ∈ t.entries :=
      fun d hd => (Tree.mem_prune.mp hd).1
    have hleft : (t.prune e.1 i.denied).clear e.1 = true :=
      Tree.clear_of_subset hsub (h e (.head _))
    have hstep : (ShellStep.removeOrQuarantine e.1 root e.2).run i t =
        ⟨true, [], t.prune e.1 i.denied⟩ := if_pos hleft
    simp only [removalScript, List.map_cons, runScript, hstep, if_true]
    exact ih fun d hd => Tree.clear_of_subset hsub (h d (.tail _ hd))

/-! ## The names of a deployment -/

def lastChar (s : String) : Option Char := s.toList.getLast?

theorem lastChar_append (s : String) {suffix : String} (h : suffix.toList ≠ []) :
    lastChar (s ++ suffix) = lastChar suffix := by
  rw [lastChar, String.toList_append, List.getLast?_append_of_ne_nil _ h]
  rfl

/-- How the name of an environment ends. -/
def envEnds : List (Option Char) := [some 'v', some 't', some 'd']

def slugKey (projectName : String) : List Char :=
  (projectName.toList.filter sanitizeChar).map Char.toLower

theorem slug_toList (projectName : String) (env : EnvName) :
    (SftpProvider.slug projectName env).toList = slugKey projectName ++ '-' :: env.text.toList := by
  have henv : (env.text.toList.filter sanitizeChar).map Char.toLower = env.text.toList := by
    cases env <;> decide
  change (String.map Char.toLower (sanitize (projectName ++ "-" ++ env.text))).toList = _
  rw [String.toList_map, sanitize, String.toList_ofList, String.toList_append,
    String.toList_append, List.filter_append, List.filter_append, List.map_append,
    List.map_append, henv, List.append_assoc]
  rfl

theorem slug_last (projectName : String) (env : EnvName) :
    lastChar (SftpProvider.slug projectName env) ∈ envEnds := by
  have hlast : lastChar (SftpProvider.slug projectName env) = env.text.toList.getLast? := by
    rw [lastChar, slug_toList, List.getLast?_append_of_ne_nil _ (List.cons_ne_nil _ _)]
    cases env <;> rfl
  rw [hlast]
  cases env <;> decide

theorem apart_of_last {root : Path} (xs ys : Path) {a b : String} (h : lastChar a ≠ lastChar b) :
    Tree.Apart (root ++ a :: xs) (root ++ b :: ys) :=
  Tree.apart_of_ne fun heq => h (by rw [heq])

section Names

variable {cfg : EffCfg} {slug stamp : String} (hslug : lastChar slug ∈ envEnds)

/-- The last characters of the five names below the root of a user's server. -/
def nameEnds : List (Option Char) := [some 'g', some 'r', some 'a', some 'e']

theorem staging_last (slug : String) : lastChar (slug ++ "__deploying") = some 'g' :=
  lastChar_append slug (by decide)

theorem archive_last (slug : String) : lastChar (slug ++ ".deploy.tar") = some 'r' :=
  lastChar_append slug (by decide)

theorem data_last : lastChar ".initpad-data" = some 'a' := by decide

theorem quarantine_last : lastChar ".initpad-quarantine" = some 'e' := by decide

include hslug in
theorem slug_ne {c : Option Char} (hc : c ∈ nameEnds) : lastChar slug ≠ c := by
  rintro rfl
  have hapart : ∀ x ∈ envEnds, x ∉ nameEnds := by decide
  exact hapart _ hslug hc

theorem quarantinePath_eq (cfg : EffCfg) (slug kind stamp : String) :
    SftpProvider.quarantinePath cfg slug kind stamp =
      cfg.remoteRoot ++ ".initpad-quarantine" :: [slug ++ "-" ++ kind ++ stamp] :=
  List.append_assoc _ _ _

theorem publicPaths_last {e : Path × Path} (he : e ∈ SftpProvider.publicPaths cfg slug stamp) :
    ∃ name xs, e.1 = cfg.remoteRoot ++ name :: [] ∧
      e.2 = cfg.remoteRoot ++ ".initpad-quarantine" :: xs ∧
      (lastChar name = lastChar slug ∨ lastChar name = some 'g' ∨ lastChar name = some 'r') := by
  simp only [SftpProvider.publicPaths, List.mem_cons, List.not_mem_nil, or_false] at he
  rcases he with rfl | rfl | rfl
  · exact ⟨slug, _, rfl, quarantinePath_eq .., .inl rfl⟩
  · exact ⟨_, _, rfl, quarantinePath_eq .., .inr (.inl (staging_last slug))⟩
  · exact ⟨_, _, rfl, quarantinePath_eq .., .inr (.inr (archive_last slug))⟩

include hslug in
theorem public_ne {name : String} {c : Option Char} (hc : c = some 'a' ∨ c = some 'e')
    (hname : lastChar name = lastChar slug ∨ lastChar name = some 'g' ∨
      lastChar name = some 'r') : lastChar name ≠ c := by
  rcases hname with h | h | h
  · rw [h]
    exact slug_ne hslug (by rcases hc with rfl | rfl <;> decide)
  · rw [h]
    rcases hc with rfl | rfl <;> decide
  · rw [h]
    rcases hc with rfl | rfl <;> decide

include hslug in
theorem publicPaths_disjoint (cfg : EffCfg) (stamp : String) :
    Disjoint (SftpProvider.quarantineRoot cfg) (SftpProvider.publicPaths cfg slug stamp) := by
  refine ⟨?_, fun e he d hd => ?_, fun e he => ?_⟩
  · simp only [SftpProvider.publicPaths, List.pairwise_cons, List.mem_cons, List.not_mem_nil,
      or_false, forall_eq_or_imp, forall_eq, IsEmpty.forall_iff, implies_true,
      List.Pairwise.nil, and_true]
    refine ⟨⟨apart_of_last _ _ ?_, apart_of_last _ _ ?_⟩, apart_of_last _ _ ?_⟩
    · rw [staging_last]
      exact slug_ne hslug (by decide)
    · rw [archive_last]
      exact slug_ne hslug (by decide)
    · rw [staging_last, archive_last]
      decide
  · obtain ⟨name, _, h1, _, hname⟩ := publicPaths_last he
    obtain ⟨_, xs, _, h2, _⟩ := publicPaths_last hd
    rw [h1, h2]
    refine apart_of_last _ _ ?_
    rw [quarantine_last]
    exact public_ne hslug (.inr rfl) hname
  · obtain ⟨name, _, h1, _, hname⟩ := publicPaths_last he
    rw [h1]
    refine (apart_of_last _ [] ?_).1
    rw [quarantine_last]
    exact public_ne hslug (.inr rfl) hname

include hslug in
theorem data_spared (cfg : EffCfg) (stamp : String) : Spared (SftpProvider.quarantineRoot cfg)
    (SftpProvider.publicPaths cfg slug stamp) (SftpProvider.dataPath cfg slug) := by
  refine ⟨fun e he => ?_, fun e he => ?_, ?_⟩
  · obtain ⟨name, _, h1, _, hname⟩ := publicPaths_last he
    rw [h1]
    refine apart_of_last _ _ ?_
    rw [data_last]
    exact public_ne hslug (.inl rfl) hname
  · obtain ⟨_, xs, _, h2, _⟩ := publicPaths_last he
    rw [h2]
    refine apart_of_last _ _ ?_
    rw [quarantine_last, data_last]
    decide
  · exact (apart_of_last [slug] [] (by decide)).1

include hslug in
theorem public_data_apart {e : Path × Path} (he : e ∈ SftpProvider.publicPaths cfg slug stamp) :
    Tree.Apart e.1 (SftpProvider.dataPath cfg slug) := (data_spared hslug cfg stamp).apart e he

theorem quarantine_data_apart (cfg : EffCfg) (slug kind stamp : String) :
    Tree.Apart (SftpProvider.quarantinePath cfg slug kind stamp)
      (SftpProvider.dataPath cfg slug) := by
  rw [quarantinePath_eq]
  refine apart_of_last _ _ ?_
  rw [quarantine_last, data_last]
  decide

end Names

/-! ## The data of a deployment -/

/-- Its removal was not denied anything; or it said so, and the data could be moved away. -/
def DataReleased (cfg : EffCfg) (slug : String) (t : Files) (rest : List HostsEvent) : Prop :=
  (Ran rest fun script i => script = [.removeTree (SftpProvider.dataPath cfg slug)] ∧
    ∀ e ∈ t.entries, SftpProvider.dataPath cfg slug <+: e.1 → i.denied e.1 = false) ∨
  (Ran rest fun script i => script = [.removeTree (SftpProvider.dataPath cfg slug)] ∧
    i.exitLost = false) ∧
  (Ran rest fun script i => (∃ stamp, script = SftpProvider.dataQuarantineScript cfg slug stamp) ∧
    i.denied (SftpProvider.quarantineRoot cfg) = false ∧
    i.denied (SftpProvider.dataPath cfg slug) = false)

section Data

variable {cfg : EffCfg} {slug stamp : String}

theorem runScript_one (step : ShellStep) : (runScript i [step] t).files = (step.run i t).files ∧
    (runScript i [step] t).succeeded = (step.run i t).succeeded := by
  simp only [runScript]
  split
  · rename_i hok
    exact ⟨rfl, hok.symm⟩
  · exact ⟨rfl, rfl⟩

theorem removeTree_run {p : Path} :
    (runScript i [.removeTree p] t).files = t.prune p i.denied ∧
      (runScript i [.removeTree p] t).succeeded = (t.prune p i.denied).clear p :=
  runScript_one (.removeTree p)

/-- Data that could not be removed is moved exactly when nothing is denied, and the script fails
otherwise. -/
theorem dataQuarantine_run (stamp : String)
    (hleft : t.clear (SftpProvider.dataPath cfg slug) = false) :
    ((runScript i (SftpProvider.dataQuarantineScript cfg slug stamp) t).succeeded = true ↔
      i.denied (SftpProvider.quarantineRoot cfg) = false ∧
        i.denied (SftpProvider.dataPath cfg slug) = false) ∧
    (runScript i (SftpProvider.dataQuarantineScript cfg slug stamp) t).files.clear
      (SftpProvider.dataPath cfg slug) =
        (runScript i (SftpProvider.dataQuarantineScript cfg slug stamp) t).succeeded := by
  have hmade : (Files.makeDirectories t (SftpProvider.quarantineRoot cfg)).clear
      (SftpProvider.dataPath cfg slug) = false := by
    rw [← hleft]
    refine Tree.clear_congr fun e he => makeDirectories_frame fun w hw => parents_covers hw he ?_
    exact (apart_of_last [slug] [] (by decide)).1
  cases hroot : i.denied (SftpProvider.quarantineRoot cfg) with
  | true =>
    simp [SftpProvider.dataQuarantineScript, runScript, ShellStep.run, hroot, hleft]
  | false =>
    cases hdata : i.denied (SftpProvider.dataPath cfg slug) with
    | true =>
      simp [SftpProvider.dataQuarantineScript, runScript, ShellStep.run, hroot, hdata, hmade]
    | false =>
      have hmoved := Tree.clear_move_self
        (t := Files.makeDirectories t (SftpProvider.quarantineRoot cfg))
        (quarantine_data_apart cfg slug "runtime-" stamp).symm
      simp [SftpProvider.dataQuarantineScript, runScript, ShellStep.run, hroot, hdata, hmade,
        hmoved]

theorem removeTree_ne_quarantine {p : Path} :
    [ShellStep.removeTree p] ≠ SftpProvider.dataQuarantineScript cfg slug stamp := nofun

theorem quarantine_ne_removeTree {p : Path} :
    SftpProvider.dataQuarantineScript cfg slug stamp ≠ [ShellStep.removeTree p] := nofun

theorem removeData_ran (h : Ends (SftpProvider.removeData cfg slug) m (.ok ()) m')
    (hrest : m'.history = m.history ++ rest) :
    Ran rest fun script _ => script = [.removeTree (SftpProvider.dataPath cfg slug)] := by
  obtain ⟨removed, m₁, hexec, h⟩ := ends_bind_ok.mp h
  obtain ⟨i, ⟨⟨x, hhistory⟩, _⟩, _⟩ := sshExec_ok hexec
  obtain ⟨rest₂, hrest₂⟩ := h.history
  rw [hrest₂, hhistory, List.append_assoc] at hrest
  rw [← List.append_cancel_left hrest]
  exact ⟨_, .head _, _, rfl, rfl⟩

theorem removeData_empties (h : Ends (SftpProvider.removeData cfg slug) m (.ok ()) m')
    (hrest : m'.history = m.history ++ rest) :
    m'.state.files.clear (SftpProvider.dataPath cfg slug) = true ↔
      DataReleased cfg slug m.state.files rest := by
  obtain ⟨removed, m₁, hexec, h⟩ := ends_bind_ok.mp h
  obtain ⟨i, ⟨⟨x, hhistory⟩, hstate⟩, _, hcode⟩ := sshExec_ok hexec
  obtain ⟨hfiles, hsucceeded⟩ :=
    removeTree_run (i := i) (t := m.state.files) (p := SftpProvider.dataPath cfg slug)
  have hm₁ : m₁.state.files = m.state.files.prune (SftpProvider.dataPath cfg slug) i.denied := by
    rw [hstate]
    exact hfiles
  have hnone := Tree.clear_prune_self m.state.files (SftpProvider.dataPath cfg slug) i.denied
  split at h
  · -- The removal succeeded, or its exit code was lost.
    obtain ⟨_, rfl⟩ := ends_ret.mp h
    obtain rfl : rest = [⟨0, .exec [.removeTree (SftpProvider.dataPath cfg slug)], i, x⟩] := by
      rw [hhistory] at hrest
      exact (List.append_cancel_left hrest).symm
    rw [hm₁, hnone, DataReleased, ran_self, ran_self, ran_self]
    constructor
    · exact fun hdenied => .inl ⟨rfl, hdenied⟩
    · rintro (⟨_, hdenied⟩ | ⟨_, ⟨_, heq⟩, _⟩)
      · exact hdenied
      · exact absurd heq removeTree_ne_quarantine
  · -- It failed and said so: the data is moved away.
    rename_i hnonzero
    have hkept : ¬ (i.exitLost = true ∨ (runScript i [.removeTree (SftpProvider.dataPath cfg slug)]
        m.state.files).succeeded = true) := fun hor => hnonzero (hcode.mpr hor)
    rw [hsucceeded] at hkept
    have hlost : i.exitLost = false := Bool.eq_false_iff.mpr fun hl => hkept (.inl hl)
    have hleft : (m.state.files.prune (SftpProvider.dataPath cfg slug) i.denied).clear
        (SftpProvider.dataPath cfg slug) = false := Bool.eq_false_iff.mpr fun hc => hkept (.inr hc)
    obtain ⟨stamp, m₂, hstamp, h⟩ := ends_bind_ok.mp h
    obtain ⟨result, m₃, hmove, hret⟩ := ends_bind_ok.mp h
    obtain ⟨_, rfl⟩ := ends_ret.mp hret
    obtain ⟨k, _, rfl⟩ := ends_await.mp hstamp
    have hm₂ : (m₁.next 0 Stmt.randomText k).state = m₁.state := rfl
    obtain ⟨j, ⟨⟨y, hhistory'⟩, hstate'⟩, _⟩ := require_ok hmove
    rw [hm₂, hm₁] at hstate'
    obtain ⟨hran, hclear⟩ := dataQuarantine_run (i := j) stamp hleft
    obtain rfl : rest = [⟨0, .exec [.removeTree (SftpProvider.dataPath cfg slug)], i, x⟩] ++
        ([⟨0, .randomText, k, .ok k.stamp⟩] ++
          [⟨0, .exec (SftpProvider.dataQuarantineScript cfg slug stamp), j, y⟩]) := by
      rw [hhistory', Moment.next_history, hhistory, List.append_assoc, List.append_assoc] at hrest
      exact (List.append_cancel_left hrest).symm
    have hrandom : ∀ P, ¬ Ran [⟨0, .randomText, k, .ok k.stamp⟩] P := by
      intro P
      refine not_ran fun ev hev => ?_
      rw [List.mem_singleton.mp hev]
      rfl
    rw [hstate']
    refine (Bool.eq_iff_iff.mp hclear).trans (hran.trans ?_)
    simp only [DataReleased, ran_append, ran_self, hrandom, false_or, hlost, and_true, true_and,
      quarantine_ne_removeTree, false_and, or_false]
    constructor
    · intro hand
      exact .inr (.inr ⟨⟨stamp, rfl⟩, hand⟩)
    · rintro (hdenied | ⟨⟨_, heq⟩, _⟩ | ⟨_, hand⟩)
      · rw [hnone.mpr hdenied] at hleft
        cases hleft
      · exact absurd heq removeTree_ne_quarantine
      · exact hand

end Data

end InitPad.Hosting
