/-!
# Bundled skills

The skills that come with the program, as the texts of their files.
-/

namespace PatchReview
namespace Skill

/-- The file of the skill that looks for common vulnerabilities. -/
def securityAudit : String :=
"name: security-audit
version: 1.0.0
description: Basic security checks for common vulnerabilities

triggers:
  - file_extension: [\".swift\", \".js\", \".ts\", \".py\", \".go\", \".java\"]

rules:
  - id: hardcoded-credentials
    severity: critical
    pattern: '(password|secret|api_key|access_token|auth_token)\\s*[:=]\\s*[''\"][a-zA-Z0-9_\\-]\x7b8,\x7d[''\"]'
    message: \"Potential hardcoded credential found. Use environment variables or a secrets manager.\"

  - id: unsafe-eval
    severity: critical
    pattern: '\\beval\\('
    message: \"Avoid using eval() as it poses security risks.\"

  - id: no-http-urls
    severity: warning
    pattern: 'http://(?!localhost|127\\.0\\.0\\.1)'
    message: \"Use HTTPS instead of HTTP for secure communication.\"

prompts:
  additional_context: |
    Pay special attention to data validation and sanitization.
    Ensure no sensitive data is logged in plain text.
"

/-- The file of the skill that looks at conventions. -/
def bestPractices : String :=
"name: best-practices
version: 1.0.0
description: General coding conventions that apply across languages

triggers:
  - file_extension: [\".swift\", \".js\", \".jsx\", \".ts\", \".tsx\", \".py\", \".go\", \".java\", \".kt\", \".rb\"]

rules:
  - id: todo-markers
    severity: info
    pattern: '(//|#)\\s*(TODO|FIXME):'
    message: \"Ensure TODOs have tracking tickets or are resolved before merging.\"

  - id: debug-output
    severity: info
    pattern: '\\b(console\\.log|println|fmt\\.Println|debugPrint)\\('
    message: \"Remove debug output or use a logger.\"

  - id: small-functions
    severity: warning
    check: \"Functions added in this change should do one thing and stay short.\"
    message: \"Consider splitting long functions.\"

prompts:
  additional_context: |
    Prefer clear names over comments.
    Keep changes focused and avoid unrelated refactors.
"

/-- The bundled files by their names. -/
def bundled : List (String × String) :=
  [("security.yaml", securityAudit), ("best-practices.yaml", bestPractices)]

end Skill
end PatchReview
