/-
The configuration files that a project starts with.
-/
import QualityGate.Text.Lines
import QualityGate.Value

namespace QualityGate.Scaffold

def projectRules : Value := .object [
  ("version", .text "1.0.0"),
  ("description", .text "SPYQ Quality Guard Configuration"),
  ("rules", .object [
    ("require_tests", .bool true),
    ("require_docstrings", .bool true),
    ("require_architecture_docs", .bool false),
    ("max_file_lines", .int 300),
    ("max_function_lines", .int 50),
    ("max_function_params", .int 4),
    ("max_nesting_depth", .int 4),
    ("max_complexity", .int 10),
    ("max_class_methods", .int 15)]),
  ("enforcement", .object [
    ("level", .text "error"),
    ("strict_mode", .bool true),
    ("block_execution", .bool true)]),
  ("patterns", .object [
    ("test_patterns", .list [
      .text "tests/test_*.py", .text "test_*.py", .text "*_test.py", .text "tests/**/test_*.py"]),
    ("doc_files", .list [
      .text "README.md", .text "docs/README.md", .text "docs/API.md",
      .text "docs/architecture.md"]),
    ("forbidden_patterns", .list [
      .text "eval(", .text "exec(", .text "globals()", .text "__import__", .text "input("])]),
  ("auto_generation", .object [
    ("enabled", .bool true),
    ("tests", .bool true),
    ("docs", .bool true),
    ("templates_dir", .text "templates/")]),
  ("exceptions", .object [
    ("missing_test", .text "MissingTestException"),
    ("missing_docs", .text "MissingDocumentationException"),
    ("invalid_structure", .text "InvalidStructureException")])]

def layoutRules : Value := .object [
  ("semi", .bool true),
  ("singleQuote", .bool true),
  ("tabWidth", .int 2),
  ("printWidth", .int 100),
  ("trailingComma", .text "all"),
  ("bracketSpacing", .bool true),
  ("arrowParens", .text "always")]

/-- The checks of script files in a new project. -/
def lintRules : String := Text.ofLines [
  "module.exports = \x7b",
  "  root: true,",
  "  env: \x7b",
  "    es2021: true,",
  "    node: true,",
  "  \x7d,",
  "  extends: [",
  "    'eslint:recommended',",
  "    'plugin:@typescript-eslint/recommended',",
  "    'prettier',",
  "  ],",
  "  parser: '@typescript-eslint/parser',",
  "  parserOptions: \x7b",
  "    ecmaVersion: 'latest',",
  "    sourceType: 'module',",
  "  \x7d,",
  "  plugins: ['@typescript-eslint', 'prettier'],",
  "  rules: \x7b",
  "    'prettier/prettier': 'error',",
  "    'no-console': 'warn',",
  "    'no-debugger': 'warn',",
  "    'no-unused-vars': 'off',",
  "    '@typescript-eslint/no-unused-vars': ['error'],",
  "    'no-var': 'error',",
  "    'prefer-const': 'error',",
  "    'no-extra-semi': 'error',",
  "    'semi': ['error', 'always'],",
  "  \x7d,",
  "\x7d;"]

def scanProperties : String := Text.ofLines [
  "# Required metadata",
  "sonar.projectKey=my_project",
  "sonar.projectName=My Project",
  "sonar.projectVersion=1.0",
  "",
  "# Comma-separated paths to directories with sources (required)",
  "sonar.sources=.",
  "",
  "# Language",
  "sonar.language=py",
  "",
  "# Encoding of the source files",
  "sonar.sourceEncoding=UTF-8",
  "",
  "# Exclusions",
  "sonar.exclusions=**/node_modules/**,**/*.min.js,**/bower_components/**," ++
    "**/jspm_packages/**,**/htmlcov/**,**/tests/**,**/test_*.py",
  "",
  "# Python specific",
  "sonar.python.coverage.reportPaths=coverage.xml",
  "sonar.python.xunit.reportPath=nosetests.xml"]

/-- The rules of a project whose missing files are made. -/
def completeRules : Value := .object [
  ("version", .text "1.0.0"),
  ("description", .text "Quality Guard configuration"),
  ("rules", .object [
    ("require_tests", .bool true),
    ("require_docstrings", .bool true),
    ("require_architecture_docs", .bool false),
    ("max_file_lines", .int 200),
    ("max_function_lines", .int 50),
    ("max_function_params", .int 4),
    ("max_nesting_depth", .int 4),
    ("max_complexity", .int 10),
    ("max_class_methods", .int 15)]),
  ("enforcement", .object [
    ("level", .text "error"),
    ("strict_mode", .bool true),
    ("block_execution", .bool true)]),
  ("patterns", .object [
    ("test_patterns", .list [
      .text "tests/test_*.py", .text "test_*.py", .text "*_test.py", .text "tests/**/test_*.py"]),
    ("doc_files", .list [
      .text "README.md", .text "docs/README.md", .text "docs/API.md",
      .text "docs/architecture.md", .text "ARCHITECTURE.md", .text "API.md"]),
    ("forbidden_patterns", .list [
      .text "eval(", .text "exec(", .text "globals()", .text "__import__", .text "input("])]),
  ("auto_generation", .object [
    ("enabled", .bool true),
    ("tests", .bool true),
    ("docs", .bool true),
    ("templates_dir", .text "templates/")]),
  ("exceptions", .object [
    ("missing_test", .text "MissingTestException"),
    ("missing_docs", .text "MissingDocumentationException"),
    ("high_complexity", .text "ComplexityException"),
    ("function_too_long", .text "FunctionTooLongException"),
    ("unauthorized_function", .text "UnauthorizedFunctionException")]),
  ("integrations", .object [
    ("vscode", .bool true),
    ("github_actions", .bool true),
    ("pre_commit", .bool true),
    ("docker", .bool true)]),
  ("reporting", .object [
    ("enabled", .bool true),
    ("format", .text "html"),
    ("output_dir", .text "reports/"),
    ("include_suggestions", .bool true)])]

end QualityGate.Scaffold
