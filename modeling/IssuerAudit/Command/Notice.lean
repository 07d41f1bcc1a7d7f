import IssuerAudit.Command.Option
import IssuerAudit.Program
/-!
The texts that the program prints about itself.
-/

namespace IssuerAudit.Command

def helpLines : List String :=
  ["Check lock file fingerprints against detached signature issuers",
    "",
    "Usage: sigcheck [OPTIONS] [LOCK]",
    "",
    "Arguments:",
    "  [LOCK]  Lock file to check (default: configs/sources/lock.json)",
    "",
    "Options:",
    "      --config <PATH>        Config file to use instead of " ++
      "~/.config/sigcheck/config.toml",
    "      --inspector <BACKEND>  Packet inspection backend: gpg or native",
    "      --gpg <PROGRAM>        Program run by the gpg backend",
    "      --timeout <SECS>       Per-signature download timeout in seconds",
    "  -h, --help                 Print help",
    "  -V, --version              Print version"]

def Notice.text : Notice → String
  | .help => String.join (helpLines.map (· ++ "\n"))
  | .version => Program.name ++ " " ++ Program.version ++ "\n"

end IssuerAudit.Command
