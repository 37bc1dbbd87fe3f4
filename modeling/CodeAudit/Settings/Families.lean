import CodeAudit.Catalog.Build
import CodeAudit.Settings.Value

/-!
# The settings of the rules

The names under which the parameters of the rules are written, family by family. A name that does not
belong to a family is a mistake.
-/

namespace CodeAudit

namespace Cryptography.Settings

def fields : Section Settings where
  strict := true
  fields :=
    [.of "insecure_hash" insecureHash fun v s => { s with insecureHash := v },
      .of "insecure_mac" insecureMac fun v s => { s with insecureMac := v },
      .of "insecure_random" insecureRandom fun v s => { s with insecureRandom := v },
      .of "bits_keyword" bitsKeyword fun v s => { s with bitsKeyword := v },
      .of "key_sizes" keySizes fun v s => { s with keySizes := v },
      .of "required_ops" requiredOps fun v s => { s with requiredOps := v }]

instance : Setting Settings := fields.setting {}

end Cryptography.Settings

namespace Access.Settings

def fields : Section Settings where
  strict := true
  fields :=
    [.of "authenticate" authenticate fun v s => { s with authenticate := v },
      .of "authorize" authorize fun v s => { s with authorize := v },
      .of "strong_hashes" strongHashes fun v s => { s with strongHashes := v },
      .of "secure_marker" secureMarker fun v s => { s with secureMarker := v },
      .of "policy_words" policyWords fun v s => { s with policyWords := v }]

instance : Setting Settings := fields.setting {}

end Access.Settings

namespace Logging.Settings

def fields : Section Settings where
  strict := true
  fields :=
    [.of "logger" logger fun v s => { s with logger := v },
      .of "deprecated_receiver" deprecatedReceiver fun v s => { s with deprecatedReceiver := v },
      .of "deprecated" deprecated fun v s => { s with deprecated := v },
      .of "levels" levels fun v s => { s with levels := v },
      .of "broad_exceptions" broadExceptions fun v s => { s with broadExceptions := v },
      .of "todo_marker" todoMarker fun v s => { s with todoMarker := v }]

instance : Setting Settings := fields.setting {}

end Logging.Settings

namespace Secrets.Settings

def fields : Section Settings where
  strict := true
  fields :=
    [.of "names" names fun v s => { s with names := v },
      .of "pattern" pattern fun v s => { s with pattern := v }]

instance : Setting Settings := fields.setting {}

end Secrets.Settings

namespace Network.Settings

def fields : Section Settings where
  strict := true
  fields :=
    [.of "functions" functions fun v s => { s with functions := v },
      .of "protocols" protocols fun v s => { s with protocols := v },
      .of "tls_keywords" tlsKeywords fun v s => { s with tlsKeywords := v },
      .of "verify_keyword" verifyKeyword fun v s => { s with verifyKeyword := v }]

instance : Setting Settings := fields.setting {}

end Network.Settings

namespace Literals.Settings

def fields : Section Settings where
  strict := true
  fields :=
    [.of "malicious" malicious fun v s => { s with malicious := v },
      .of "rescan" rescan fun v s => { s with rescan := v },
      .of "base64_shape" base64Shape fun v s => { s with base64Shape := v },
      .of "rot13_shape" rot13Shape fun v s => { s with rot13Shape := v },
      .of "hex_shape" hexShape fun v s => { s with hexShape := v },
      .of "dangerous_modules" dangerousModules fun v s => { s with dangerousModules := v },
      .of "dangerous_functions" dangerousFunctions fun v s => { s with dangerousFunctions := v },
      .of "bad_keywords" badKeywords fun v s => { s with badKeywords := v },
      .of "bad_builtins" badBuiltins fun v s => { s with badBuiltins := v },
      .of "dangerous_builtins" dangerousBuiltins fun v s => { s with dangerousBuiltins := v }]

instance : Setting Settings := fields.setting {}

end Literals.Settings

namespace Branching.Settings

def fields : Section Settings where
  strict := true
  fields :=
    [.of "flag_non_range_iterables" flagNonRangeIterables
      fun v s => { s with flagNonRangeIterables := v }]

instance : Setting Settings := fields.setting {}

end Branching.Settings

namespace Environment.Settings

def fields : Section Settings where
  strict := true
  fields :=
    [.of "sources" sources fun v s => { s with sources := v },
      .of "file_suffixes" fileSuffixes fun v s => { s with fileSuffixes := v },
      .of "launchers" launchers fun v s => { s with launchers := v },
      .of "remote_tools" remoteTools fun v s => { s with remoteTools := v },
      .of "prompts" prompts fun v s => { s with prompts := v }]

instance : Setting Settings := fields.setting {}

end Environment.Settings

namespace Requests.Settings

def fields : Section Settings where
  strict := true
  fields :=
    [.of "key_pattern" keyPattern fun v s => { s with keyPattern := v },
      .of "accessor" accessor fun v s => { s with accessor := v },
      .of "query_source" querySource fun v s => { s with querySource := v },
      .of "json_responders" jsonResponders fun v s => { s with jsonResponders := v },
      .of "status_key" statusKey fun v s => { s with statusKey := v },
      .of "status_value" statusValue fun v s => { s with statusValue := v },
      .of "login_decorators" loginDecorators fun v s => { s with loginDecorators := v },
      .of "identity_pattern" identityPattern fun v s => { s with identityPattern := v }]

instance : Setting Settings := fields.setting {}

end Requests.Settings

namespace RuleSettings

def fields : Section RuleSettings where
  strict := true
  fields :=
    [.of "disabled" disabled fun v s => { s with disabled := v },
      .of "severity" severity fun v s => { s with severity := v },
      .of "crypto" cryptography fun v s => { s with cryptography := v },
      .of "auth" access fun v s => { s with access := v },
      .of "logging" logging fun v s => { s with logging := v },
      .of "secrets" secrets fun v s => { s with secrets := v },
      .of "comms" network fun v s => { s with network := v },
      .of "strings" literals fun v s => { s with literals := v },
      .of "control_flow" branching fun v s => { s with branching := v },
      .of "config_audit" environment fun v s => { s with environment := v },
      .of "api" requests fun v s => { s with requests := v }]

instance : Setting RuleSettings := fields.setting {}

end RuleSettings

end CodeAudit
