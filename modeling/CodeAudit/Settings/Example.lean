/-!
# The example of a settings file

It is written when the program runs for the first time, and never read back. Its comments explain the
settings, and its values are the defaults.
-/

namespace CodeAudit

/-- The lines of the example. -/
def exampleLines : List String := [
  "# astguard configuration",
  "#",
  "# This file is written on first run and is never read back. Copy the",
  "# sections you want to change into `astguard.local` next to it.",
  "",
  "[scanner]",
  "# Findings below this severity are not printed: \"low\" | \"medium\" | \"high\"",
  "min_severity = \"low\"",
  "# Exit with status 1 when any finding is at least this severe.",
  "fail_on = \"high\"",
  "# max_file_size_mb = 4",
  "excluded_directories = [\".git\", \".venv\", \"venv\", \"__pycache__\", \".tox\", \"node_modules\", \"build\", \"dist\"]",
  "follow_symlinks = false",
  "scan_hidden_files = false",
  "# Files that cannot be read or parsed make the run exit with status 2",
  "# unless this is set.",
  "ignore_file_errors = false",
  "",
  "[output]",
  "# \"console\" | \"plain\"",
  "default_format = \"console\"",
  "quiet = false",
  "# max_results = 200",
  "",
  "[performance]",
  "# worker_threads = 8",
  "channel_multiplier = 4",
  "rayon_thread_stack_size = 8388608",
  "",
  "[rules]",
  "# Rule ids that are never installed. `astguard list --verbose` shows them all.",
  "disabled = []",
  "",
  "[rules.severity]",
  "# insecure_random = \"medium\"",
  "",
  "[rules.crypto]",
  "insecure_hash = '^(hashlib\\.)?(md5|sha1)$'",
  "insecure_mac = '^(hmac\\.new|hashlib\\.pbkdf2_hmac)$'",
  "insecure_random = '^random\\.\\w+$'",
  "bits_keyword = \"bits\"",
  "",
  "[rules.crypto.key_sizes]",
  "RSA = 2048",
  "DSA = 2048",
  "ECDSA = 256",
  "Ed25519 = 256",
  "AES = 256",
  "ChaCha20 = 256",
  "",
  "[rules.crypto.required_ops]",
  "RSA = [\"encrypt\", \"decrypt\", \"sign\", \"verify\"]",
  "DSA = [\"sign\", \"verify\"]",
  "ECDSA = [\"sign\", \"verify\"]",
  "Ed25519 = [\"sign\", \"verify\"]",
  "AES = [\"encrypt\", \"decrypt\"]",
  "ChaCha20 = [\"encrypt\", \"decrypt\"]",
  "",
  "[rules.auth]",
  "authenticate = [\"authenticate\"]",
  "authorize = [\"authorize\"]",
  "strong_hashes = [\"bcrypt\", \"scrypt\", \"argon2\"]",
  "secure_marker = \"secure\"",
  "policy_words = [\"allow\", \"deny\"]",
  "",
  "[rules.logging]",
  "logger = '(^|\\.)(logging|logger|log|LOGGER)\\.\\w+$'",
  "deprecated_receiver = \"logging\"",
  "deprecated = [\"warn\", \"fatal\", \"captureWarnings\"]",
  "levels = [\"DEBUG\", \"INFO\", \"WARNING\", \"ERROR\", \"CRITICAL\"]",
  "broad_exceptions = [\"Exception\", \"BaseException\"]",
  "todo_marker = '\\b(TODO|FIXME)\\b'",
  "",
  "[rules.secrets]",
  "names = [\"username\", \"password\", \"secret_key\", \"api_key\"]",
  "pattern = 'password|secret_key|api_key'",
  "",
  "[rules.comms]",
  "functions = 'socket|httplib|urllib|requests'",
  "protocols = 'http://|ftp://|telnet://'",
  "tls_keywords = '(cafile|capath|certfile|keyfile|cert_reqs|ssl_version|context|verify)'",
  "verify_keyword = \"verify\"",
  "",
  "[rules.strings]",
  "malicious = '(?i)exec|eval|subprocess|shell|os\\.'",
  "rescan = '(?i)exec|eval|subprocess|shell|os\\.|input|__import__'",
  "base64_shape = '^[a-zA-Z0-9+/=]+\\s*$'",
  "rot13_shape = '^[a-zA-Z]+://[a-zA-Z0-9]+\\s*$'",
  "hex_shape = '^(?:0x[0-9a-fA-F]\x7b2\x7d)+\\s*$'",
  "dangerous_modules = [\"subprocess\", \"os\", \"shutil\", \"sys\"]",
  "dangerous_functions = [\"eval\", \"exec\", \"input\", \"open\", \"__import__\"]",
  "bad_keywords = [\"import\", \"from\", \"exec\", \"eval\", \"print\", \"assert\", \"exit\", \"quit\"]",
  "bad_builtins = [\"eval\", \"exec\", \"open\", \"input\", \"print\", \"exit\", \"quit\", \"compile\"]",
  "dangerous_builtins = [\"eval\", \"exec\", \"open\", \"__import__\", \"compile\"]",
  "",
  "[rules.control_flow]",
  "# Also report `for` loops over anything but range().",
  "flag_non_range_iterables = false",
  "",
  "[rules.config_audit]",
  "sources = [\"ConfigParser\", \"environ\"]",
  "file_suffixes = [\".ini\"]",
  "launchers = [\"subprocess.call\", \"subprocess.Popen\"]",
  "remote_tools = [\"ssh\", \"scp\"]",
  "prompts = [\"getpass\"]",
  "",
  "[rules.api]",
  "key_pattern = '(?i)^(?:api|access)_?(?:key|token)$'",
  "accessor = \"get\"",
  "query_source = '(^|\\.)request\\.args$'",
  "json_responders = [\"jsonify\", \"JsonResponse\"]",
  "status_key = \"status\"",
  "status_value = \"success\"",
  "login_decorators = [\"login_required\"]",
  "identity_pattern = '(^|\\.)(current_user|username|user)$'"]

/-- The text of the example. -/
def exampleSettings : String := String.join (exampleLines.map (· ++ "\n"))

end CodeAudit
