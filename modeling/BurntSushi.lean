import BurntSushi.AdBlocker.Agreement
import BurntSushi.AdBlocker.Deadlock
import BurntSushi.AdBlocker.Ejection
import BurntSushi.AdBlocker.Removal
import BurntSushi.AdBlocker.RpcTask
import BurntSushi.AdBlocker.Stop
import BurntSushi.Blocker.Contract
import BurntSushi.Blocker.Forwarding
import BurntSushi.Blocker.Lifecycle
import BurntSushi.Blocker.Reload
import BurntSushi.Blocker.Rulesets
import BurntSushi.Blocker.Switching
import BurntSushi.Blocker.Unload
import BurntSushi.Client.Guarantee
import BurntSushi.ForceRestart
import BurntSushi.Journal
import BurntSushi.Logger.Console
import BurntSushi.Logger.Global
import BurntSushi.Logger.TwoLogs
import BurntSushi.Resolver.FilterConfig
import BurntSushi.Resolver.Installed
import BurntSushi.Scanner.Alive
import BurntSushi.Scanner.Completeness
import BurntSushi.Scanner.Tracking
import BurntSushi.Tray.CtrlC
import BurntSushi.Tray.Progress
import BurntSushi.Tray.Safety
import BurntSushi.Update.Check
import BurntSushi.Update.ExeSwap
import BurntSushi.Update.HandOver
import BurntSushi.Update.Network
import BurntSushi.Update.Restart
import BurntSushi.Client.Guarantee
