import Lush.Basic
import Lush.Prompt.Env
import Lush.Prompt.Color
import Lush.Prompt.Scanner
import Lush.Prompt.ExpandBuf
import Lush.Prompt.Template
import Lush.Prompt.Expand
import Lush.Prompt.Escapes
import Lush.Async.Queue
import Lush.Async.Worker
import Lush.Powerline.Render
import Lush.Powerline.Overflow
import Lush.Powerline.Collect
import Lush.Powerline.Separators
import Lush.Powerline.Visible
import Lush.Prompt.Passthrough
import Lush.Shell.Recovery
import Lush.Shell.Init
import Lush.Shell.Lifecycle
import Lush.Git.Quote
import Lush.Git.Syscall
import Lush.Git.Runner
import Lush.Git.Reap
import Lush.Git.Capture
import Lush.Git.Status
import Lush.Git.Porcelain
import Lush.Async.Teardown
