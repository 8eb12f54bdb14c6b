import KerSorMonitor.Runtime.FailedStart
import Mathlib.Data.List.TakeWhile

/-!
# Retried commands of a remote start (`flotilla/runtime/tmux_claude.py`, `_ssh`, `start`)

`_ssh` runs a command again when the connection dropped, also when the command had run: each
command of a remote start is run at least once. `mkdir`, `cat` and `chmod` may be repeated, the old
window is killed at most once, and a `new-window` that ran twice leaves two windows of one name,
which `list-panes` refuses to resolve.

Results:
1. `ssh_runs`: what a command keeps survives its retries, and a return is its last run.
2. `remote_start_opens_one`: a remote start that returns opened exactly one window.
-/

namespace Flotilla.Tmux

open Threads
open Prog (call)

/-- The host after a window was opened in this session `n` times. -/
def Host.opened (h : Host) (session win : String) : Nat → Host
  | 0 => h
  | n + 1 =>
    let h := h.opened session win n
    { h with windows := h.windows ++ [⟨session, win, h.panes⟩], panes := h.panes + 1 }

/-- Since `h` exactly one window was opened. No other window of the session bears its name, and this
is its pane. -/
structure OpenedOne (loose : Loose) (sess win pane : String) (h h' : Host) : Prop where
  panes : h'.panes = h.panes + 1
  window : ∃ session, h'.session? loose sess = some session ∧
    h'.bearing session win = [⟨session, win, h.panes⟩]
  pane : pane = paneId h.panes

namespace RemoteRetries

open FailedStart

variable {loose : Loose} {win : String} {h : Host}

/-- The runs of a program on a host. -/
abbrev Runs (loose : Loose) {α : Type} (p : RuntimeProgram α)
    (Q : Except PyErr α → Host → Prop) (h : Host) : Prop :=
  Safe (.alone (server loose) 0 fun _ _ _ => True) 0 p Q h

/-! ### `_ssh` -/

/-- How a command ended: `P` holds, and a return code of 0 is that of its last run. -/
def Ran (loose : Loose) (cmd : Command) (P : Host → Prop) (r : Except PyErr Completed)
    (h' : Host) : Prop :=
  P h' ∧ ∀ c, r = .ok c → c.returncode = 0 →
    ∃ h screen, P h ∧ h.execute loose screen cmd = (c, h')

variable {cmd : Command} {P : Host → Prop}

theorem attempt_runs (host : String) (hkeep : ∀ h screen, P h → P (h.execute loose screen cmd).2)
    (hP : P h) : Runs loose (call (.ssh host cmd)) (Ran loose cmd P) h := by
  refine Alone.call fun fate r h' _ hexec => ?_
  obtain ⟨hr, rfl⟩ := Prod.mk.inj hexec
  cases fate with
  | ran screen =>
    refine ⟨hkeep h screen hP, fun c hc _ => ⟨h, screen, hP, ?_⟩⟩
    rw [hc] at hr
    exact Prod.ext (Except.ok.inj hr) rfl
  | failed rc stderr =>
    refine ⟨hP, fun c hc hzero => ?_⟩
    rw [hc] at hr
    rw [← Except.ok.inj hr] at hzero
    cases hzero
  | dropped executed =>
    refine ⟨?_, fun c hc hzero => ?_⟩
    · cases executed with
      | true => exact hkeep h "" hP
      | false => exact hP
    · rw [hc] at hr
      rw [← Except.ok.inj hr] at hzero
      cases hzero
  | raised exc =>
    refine ⟨hP, fun c hc _ => ?_⟩
    rw [hc] at hr
    cases hr

theorem sshAttempts_runs (host : String)
    (hkeep : ∀ h screen, P h → P (h.execute loose screen cmd).2) (retries : Nat) (hP : P h) :
    Runs loose (sshAttempts host cmd retries) (Ran loose cmd P) h := by
  induction retries generalizing h with
  | zero => exact attempt_runs host hkeep hP
  | succ retries ih =>
    refine Safe.seq (attempt_runs host hkeep hP) ?_ fun e h' hran => ⟨hran.1, fun c hc => ?_⟩
    · intro c h' hran
      split
      · exact ih hran.1
      · refine ⟨hran.1, fun c' hc' => ?_⟩
        cases hc'
        exact hran.2 c rfl
    · cases hc

/-- A checked command: when it returns, its last run reported 0. -/
theorem ssh_runs (host : String) (hkeep : ∀ h screen, P h → P (h.execute loose screen cmd).2)
    (hP : P h) : Runs loose (ssh host cmd) (fun r h' => P h' ∧ ∀ c, r = .ok c →
      ∃ h screen, P h ∧ h.execute loose screen cmd = (c, h') ∧ c.returncode = 0) h := by
  unfold ssh
  split
  · exact ⟨hP, fun c hc => by cases hc⟩
  · refine Safe.seq (sshAttempts_runs host hkeep 2 hP) ?_ fun e h' hran => ⟨hran.1, fun c hc => ?_⟩
    · intro c h' hran
      split
      · next hzero =>
        refine ⟨hran.1, fun c' hc' => ?_⟩
        cases hc'
        obtain ⟨h, screen, hP, hexec⟩ := hran.2 c rfl hzero
        exact ⟨h, screen, hP, hexec, hzero⟩
      · exact ⟨hran.1, fun c' hc' => by cases hc'⟩
    · cases hc

/-! ### The commands of a launch -/

/-- Before its window is opened, a start opens none. -/
theorem panes_before (hcmd : cmd.Before win) (screen : String) :
    (h.execute loose screen cmd).2.panes = h.panes := by
  have hkill (sess name : String) : (h.killWindow loose sess name).2.panes = h.panes := by
    unfold Host.killWindow Host.onTarget
    cases h.window? loose sess name <;> rfl
  have hother (hafter : cmd.After win) : (h.execute loose screen cmd).2.panes = h.panes :=
    (execute_keeps (d := {}) screen hcmd hafter).2.1
  cases cmd with
  | newWindow => exact hcmd.elim
  | killWindow sess name | dropWindow sess name => exact hkill sess name
  | _ => exact hother trivial

theorem prepareRemote_runs (host : String) (l : Launch) (h : Host) :
    Runs loose (prepareRemote host l) (fun _ h' => h'.panes = h.panes) h := by
  refine Alone.of_all (N := RuntimeAct.Before l.window) ?_ (prepareRemote_all host l) rfl
  rintro β a ha fate h₁ r h' - hpanes hexec
  obtain ⟨-, rfl⟩ := Prod.mk.inj hexec
  change (h₁.exec loose fate a).2.panes = h.panes
  rw [exec_host]
  split
  · exact (panes_before ha "").trans hpanes
  · exact hpanes

section Opened

variable (h : Host) (session win : String) (n : Nat)

theorem sessions_opened : (h.opened session win n).sessions = h.sessions := by
  induction n with
  | zero => rfl
  | succ n ih => exact ih

theorem session?_opened (sess : String) :
    (h.opened session win n).session? loose sess = h.session? loose sess := by
  unfold Host.session?
  rw [sessions_opened]

theorem panes_opened : (h.opened session win n).panes = h.panes + n := by
  induction n with
  | zero => rfl
  | succ n ih => exact congrArg (· + 1) ih

theorem bearing_opened : (h.opened session win n).bearing session win =
    h.bearing session win ++ (List.range n).map fun i => ⟨session, win, h.panes + i⟩ := by
  induction n with
  | zero => exact (List.append_nil _).symm
  | succ n ih =>
    have hnew : [(⟨session, win, (h.opened session win n).panes⟩ : Window)].filter
        (fun w => w.session = session && w.name = win) = [⟨session, win, h.panes + n⟩] := by
      rw [panes_opened]
      simp
    unfold Host.bearing at ih ⊢
    change ((h.opened session win n).windows ++ _).filter _ = _
    rw [List.filter_append, ih, hnew, List.range_succ, List.map_append, List.append_assoc]
    rfl

end Opened

/-- A window whose name resolves is the only one that bears it. -/
theorem bearing_of_window? {sess session : String} {w x : Window}
    (hsess : h.session? loose sess = some session) (hx : x ∈ h.bearing session win)
    (hw : h.window? loose sess win = some w) : h.bearing session win = [w] := by
  unfold Host.window? at hw
  rw [hsess, Option.bind_some] at hw
  split at hw
  · next hbear =>
    cases hw
    exact hbear
  · next hbear =>
    rw [hbear] at hx
    cases hx
  · cases hw

theorem window?_opened {sess session : String} {n : Nat} {w : Window}
    (hsess : h.session? loose sess = some session)
    (hw : (h.opened session win (n + 1)).window? loose sess win = some w) :
    n = 0 ∧ w = ⟨session, win, h.panes⟩ := by
  have hbearing := bearing_opened h session win (n + 1)
  have honly : (h.opened session win (n + 1)).bearing session win = [w] := by
    refine bearing_of_window? ((session?_opened h session win (n + 1) sess).trans hsess)
      (x := ⟨session, win, h.panes + n⟩) ?_ hw
    rw [hbearing]
    exact List.mem_append_right _ (List.mem_map.mpr ⟨n, List.mem_range.mpr n.lt_succ_self, rfl⟩)
  rw [hbearing] at honly
  have hlength := congrArg List.length honly
  simp only [List.length_append, List.length_map, List.length_range, List.length_singleton]
    at hlength
  obtain rfl : n = 0 := by omega
  have hnone : h.bearing session win = [] := List.eq_nil_of_length_eq_zero (by omega)
  rw [hnone] at honly
  exact ⟨rfl, (List.singleton_inj.mp honly).symm⟩

/-- What the repeated `new-window` leaves. -/
def Opened (loose : Loose) (sess win : String) (base h : Host) : Prop :=
  h = base ∨ ∃ session n, base.session? loose sess = some session ∧
    h = base.opened session win (n + 1)

theorem opened_newWindow {sess launcher screen : String} {base : Host}
    (hopened : Opened loose sess win base h) {c : Completed} {h' : Host}
    (hexec : h.execute loose screen (.newWindow sess win launcher) = (c, h')) :
    Opened loose sess win base h' ∧ (c.returncode = 0 → ∃ session n,
      base.session? loose sess = some session ∧ h' = base.opened session win (n + 1)) := by
  unfold Host.execute at hexec
  dsimp only at hexec
  have hsess : h.session? loose sess = base.session? loose sess := by
    rcases hopened with rfl | ⟨session, n, -, rfl⟩
    · rfl
    · exact session?_opened base session win (n + 1) sess
  rw [hsess] at hexec
  cases hbase : base.session? loose sess with
  | none =>
    rw [hbase] at hexec
    obtain ⟨rfl, rfl⟩ := Prod.mk.inj hexec
    exact ⟨hopened, fun hzero => by cases hzero⟩
  | some session =>
    rw [hbase] at hexec
    obtain ⟨rfl, rfl⟩ := Prod.mk.inj hexec
    have hopen : ∃ session' n, some session = some session' ∧
        { h with windows := h.windows ++ [⟨session, win, h.panes⟩], panes := h.panes + 1 } =
          base.opened session' win (n + 1) := by
      rcases hopened with rfl | ⟨session', n, hsession, rfl⟩
      · exact ⟨session, 0, rfl, rfl⟩
      · obtain rfl := Option.some.inj (hbase.symm.trans hsession)
        exact ⟨session, n + 1, rfl, rfl⟩
    exact ⟨Or.inr (by rwa [← hbase] at hopen), fun _ => hopen⟩

theorem newWindow_runs (host : String) (sess launcher : String) (base : Host) :
    Runs loose (ssh host (.newWindow sess win launcher)) (fun r h' => ∀ c, r = .ok c →
      ∃ session n, base.session? loose sess = some session ∧
        h' = base.opened session win (n + 1)) base := by
  have hkeep (h : Host) (screen : String) (hP : Opened loose sess win base h) :
      Opened loose sess win base (h.execute loose screen (.newWindow sess win launcher)).2 :=
    (opened_newWindow hP (rfl : h.execute loose screen (.newWindow sess win launcher) = (_, _))).1
  refine (ssh_runs host hkeep (Or.inl rfl)).mono ?_
  rintro r h' ⟨-, hok⟩ c hc
  obtain ⟨h, screen, hP, hexec, hzero⟩ := hok c hc
  exact (opened_newWindow hP hexec).2 hzero

/-- `list-panes` changes nothing, and finds the window. -/
theorem listPanes_runs (host sess : String) (h : Host) :
    Runs loose (ssh host (.listPanes sess win)) (fun r h' => h' = h ∧ ∀ c, r = .ok c →
      ∃ w, h.window? loose sess win = some w ∧ c.stdout = paneId w.pane ++ "\n") h := by
  refine (ssh_runs (P := fun h' => h' = h) host ?_ rfl).mono ?_
  · rintro _ screen rfl
    exact onTarget_keeps _ _ fun _ => rfl
  · rintro r h' ⟨rfl, hok⟩
    refine ⟨rfl, fun c hc => ?_⟩
    obtain ⟨h, screen, rfl, hexec, hzero⟩ := hok c hc
    unfold Host.execute at hexec
    dsimp only at hexec
    cases hw : h.window? loose sess win with
    | none =>
      rw [hw] at hexec
      obtain ⟨rfl, -⟩ := Prod.mk.inj hexec
      cases hzero
    | some w =>
      rw [hw] at hexec
      obtain ⟨rfl, -⟩ := Prod.mk.inj hexec
      exact ⟨w, rfl, rfl⟩

/-! ### The pane -/

theorem visible_paneId {n : Nat} {c : Char} (hc : c ∈ (paneId n).toList) :
    33 ≤ c.toNat ∧ c.toNat ≤ 126 := by
  unfold paneId at hc
  rw [String.toList_append, Nat.toString_eq_repr, Nat.toList_repr] at hc
  rcases List.mem_append.mp hc with hc | hc
  · obtain rfl : c = '%' := List.mem_singleton.mp hc
    decide
  · have hdigit := Char.isDigit_iff_toNat.mp (Nat.isDigit_of_mem_toDigits (by decide) (by decide) hc)
    have hzero : '0'.toNat = 48 := rfl
    have hnine : '9'.toNat = 57 := rfl
    omega

theorem isSpace_of_visible {c : Char} (h : 33 ≤ c.toNat ∧ c.toNat ≤ 126) : isSpace c = false := by
  unfold isSpace
  simp only [List.contains_eq_mem, List.mem_cons, List.not_mem_nil, or_false, Bool.or_eq_false_iff,
    Bool.and_eq_false_iff, decide_eq_false_iff_not]
  omega

theorem dropWhile_of_visible {s : List Char} (h : ∀ c ∈ s, 33 ≤ c.toNat ∧ c.toNat ≤ 126) :
    s.dropWhile isSpace = s := by
  cases s with
  | nil => rfl
  | cons c s =>
    exact List.dropWhile_cons_of_neg (by rw [isSpace_of_visible (h c (.head _))]; decide)

theorem strip_line {s : String} (hs : s ≠ "")
    (h : ∀ c ∈ s.toList, 33 ≤ c.toNat ∧ c.toNat ≤ 126) : strip (s ++ "\n") = s := by
  have hfront : (s ++ "\n").toList.dropWhile isSpace = s.toList ++ ['\n'] := by
    rw [String.toList_append]
    cases hlist : s.toList with
    | nil => exact absurd (String.toList_inj.mp hlist) hs
    | cons c cs =>
      have hc : isSpace c = false := isSpace_of_visible (h c (by rw [hlist]; exact .head _))
      exact List.dropWhile_cons_of_neg (by rw [hc]; decide)
  have hback : (s.toList ++ ['\n']).reverse.dropWhile isSpace = s.toList.reverse := by
    rw [List.reverse_append]
    exact dropWhile_of_visible fun c hc => h c (List.mem_reverse.mp hc)
  unfold strip
  rw [hfront, hback, List.reverse_reverse, String.ofList_toList]

theorem isLineBreak_of_visible {c : Char} (h : 33 ≤ c.toNat ∧ c.toNat ≤ 126) :
    isLineBreak c = false := by
  unfold isLineBreak
  simp only [List.contains_eq_mem, List.mem_cons, List.not_mem_nil, or_false, Bool.or_eq_false_iff,
    Bool.and_eq_false_iff, decide_eq_false_iff_not]
  omega

theorem firstPane_paneId (n : Nat) : firstPane (paneId n ++ "\n") = some (paneId n) := by
  have hne : paneId n ≠ "" := by
    intro h
    have hlist := congrArg String.toList h
    unfold paneId at hlist
    rw [String.toList_append] at hlist
    cases hlist
  have hline : (paneId n).toList.takeWhile (fun c => !isLineBreak c) = (paneId n).toList := by
    refine List.takeWhile_eq_self_iff.mpr fun c hc => ?_
    rw [isLineBreak_of_visible (visible_paneId hc)]
    rfl
  unfold firstPane
  rw [strip_line hne fun c hc => visible_paneId hc, hline, String.ofList_toList]
  unfold nonEmpty?
  exact if_neg hne

/-! ### One start -/

theorem answerPrompts_runs (host : Option String) (pane : String)
    (checks : List (String × List String)) (h : Host) :
    Runs loose (answerPrompts host pane checks) (fun _ h' => h' = h) h := by
  refine Alone.of_all (N := RuntimeAct.OnPane) ?_ (answerPrompts_all host pane checks) rfl
  rintro β a ha fate _ r h' - rfl hexec
  obtain ⟨-, rfl⟩ := Prod.mk.inj hexec
  refine (exec_host a fate).trans ?_
  split
  · unfold RuntimeAct.OnPane at ha
    cases hcmd : a.command with
    | capturePane | sendKeys => exact onTarget_keeps _ _ fun _ => rfl
    | _ =>
      rw [hcmd] at ha
      exact ha.elim
  · rfl

theorem openRemote_runs (host : String) (l : Launch) (base : Host) :
    Runs loose (openRemote host l) (fun r h' => ∀ pane, r = .ok pane →
      OpenedOne loose l.session l.window pane base h') base := by
  refine Safe.seq (newWindow_runs host l.session l.launcher base) ?_ fun e h' _ pane hpane => ?_
  · intro c h' hnew
    obtain ⟨session, n, hsess, rfl⟩ := hnew c rfl
    refine Safe.seq (listPanes_runs host l.session _) ?_ fun e h' _ pane hpane => ?_
    · rintro c h' ⟨rfl, hlist⟩
      obtain ⟨w, hw, hout⟩ := hlist c rfl
      obtain ⟨rfl, rfl⟩ := window?_opened hsess hw
      have hpane : paneOf (pyRepr l.target) c.stdout = pure (paneId base.panes) := by
        unfold paneOf
        rw [hout, firstPane_paneId]
      rw [hpane]
      rintro pane ⟨⟩
      have hsession := (session?_opened base session l.window 1 l.session).trans hsess
      refine ⟨rfl, ⟨session, hsession, ?_⟩, rfl⟩
      refine bearing_of_window? hsession (x := ⟨session, l.window, base.panes⟩) ?_ hw
      rw [bearing_opened]
      exact List.mem_append_right _ (.head _)
    · cases hpane
  · cases hpane

theorem openWorker_runs (host : String) (l : Launch) (h : Host) :
    Runs loose (openWorker (some host) l) (fun r h' => ∀ pane, r = .ok pane →
      OpenedOne loose l.session l.window pane h h') h := by
  refine Safe.seq (prepareRemote_runs host l h) ?_ fun e h' _ pane hpane => by cases hpane
  intro _ base hbase
  refine (openRemote_runs host l base).mono fun r h' hopen pane hpane => ?_
  obtain ⟨hpanes, hwindow, hpaneId⟩ := hopen pane hpane
  rw [hbase] at hpanes hwindow hpaneId
  exact ⟨hpanes, hwindow, hpaneId⟩

theorem launch_runs {host : Option String} {remote : String} (hremote : nonEmpty? host = some remote)
    (l : Launch) (boot : Option String) (h : Host) :
    Runs loose (launch host l boot) (fun r h' => ∀ handle, r = .ok handle → ∃ pane,
      handle = .tmux host l.session l.window pane none l.workspace ∧
        OpenedOne loose l.session l.window pane h h') h := by
  unfold launch
  rw [hremote]
  refine Safe.seq (openWorker_runs remote l h) ?_ fun e h' _ handle hhandle => by cases hhandle
  intro pane h' hopen
  refine Safe.seq (answerPrompts_runs (some remote) pane (promptChecks boot) h') ?_
    fun e h' _ handle hhandle => by cases hhandle
  rintro _ _ rfl handle ⟨⟩
  exact ⟨pane, rfl, hopen pane rfl⟩

theorem start_runs (settings : StartSettings) (args : StartArgs) (times : String × String)
    {remote : String} (hremote : nonEmpty? args.host = some remote) (h : Host) :
    Runs loose (start settings args times) (fun r h' => ∀ handle, r = .ok handle → ∃ pane,
      handle = .tmux args.host ((nonEmpty? args.session).getD settings.tmuxSession)
        (windowName settings.digest args.taskId) pane none args.workspace ∧
      OpenedOne loose ((nonEmpty? args.session).getD settings.tmuxSession)
        (windowName settings.digest args.taskId) pane h h') h := by
  unfold start
  cases effortFlag args.metadata with
  | error e => exact fun handle h => by cases h
  | ok effort =>
    cases chosenBootCommand settings args with
    | error e => exact fun handle h => by cases h
    | ok boot => exact launch_runs hremote (launchOf settings args times effort boot) boot h

end RemoteRetries

/-- Connections drop after `mkdir` and `kill-window` have run and before `new-window` runs. -/
def droppedFates : List Fate :=
  [.dropped true, .ran "", .ran "", .ran "", .ran "", .ran "", .ran "", .dropped true, .ran "",
   .dropped false, .ran "", .ran "", .ran "", .ran ""]

end Flotilla.Tmux
