/-
The files that the guard itself consists of, made anew where they may be missing.
-/
import QualityGate.Json.Write
import QualityGate.Scaffold.Rules
import QualityGate.Session
import QualityGate.Settings.Store

namespace QualityGate.Scaffold

def coreModule : String := Text.ofLines [
  "\"\"\"",
  "Quality Guard - Automatic Code Quality Enforcement System",
  "",
  "Main components:",
  "- quality_guard_exceptions: Exception-based quality control",
  "- setup_quality_guard: Installation and setup utilities",
  "- validators: Code validation logic",
  "\"\"\"",
  "",
  "from .quality_guard_exceptions import (",
  "    QualityGuardException,",
  "    MissingTestException,",
  "    MissingDocumentationException,",
  "    ComplexityException,",
  "    FunctionTooLongException,",
  "    require_tests,",
  "    require_docs,",
  "    enforce_quality,",
  "    QualityGuardValidator,",
  "    QualityConfig,",
  "    AutoGenerator",
  ")",
  "",
  "__version__ = \"1.0.0\"",
  "__author__ = \"Quality Guard Team\"",
  "",
  "# Auto-activation when imported",
  "import sys",
  "if not hasattr(sys, '_quality_guard_active'):",
  "    from .quality_guard_exceptions import QualityGuardInstaller",
  "    QualityGuardInstaller.install_globally()",
  "    sys._quality_guard_active = True",
  "    print(\"🛡️ Quality Guard activated automatically\")",
  "",
  "__all__ = [",
  "    'QualityGuardException',",
  "    'MissingTestException', ",
  "    'MissingDocumentationException',",
  "    'ComplexityException',",
  "    'FunctionTooLongException',",
  "    'require_tests',",
  "    'require_docs', ",
  "    'enforce_quality',",
  "    'QualityGuardValidator',",
  "    'QualityConfig',",
  "    'AutoGenerator'",
  "]"]

def fullPackageScript : String := Text.ofLines [
  "#!/usr/bin/env python3",
  "\"\"\"",
  "Setup script for Quality Guard",
  "\"\"\"",
  "",
  "from setuptools import setup, find_packages",
  "from pathlib import Path",
  "",
  "# Read README",
  "readme_path = Path(__file__).parent / \"docs\" / \"README.md\"",
  "if readme_path.exists():",
  "    with open(readme_path, \"r\", encoding=\"utf-8\") as fh:",
  "        long_description = fh.read()",
  "else:",
  "    long_description = \"Quality Guard - Automatic Code Quality Enforcement\"",
  "",
  "# Read requirements",
  "requirements_path = Path(__file__).parent / \"requirements.txt\"",
  "if requirements_path.exists():",
  "    with open(requirements_path, \"r\") as fh:",
  "        requirements = [line.strip() for line in fh if line.strip() and not " ++
    "line.startswith(\"#\")]",
  "else:",
  "    requirements = []",
  "",
  "setup(",
  "    name=\"quality-guard\",",
  "    version=\"1.0.0\",",
  "    author=\"Quality Guard Team\",",
  "    author_email=\"team@qualityguard.dev\",",
  "    description=\"Automatic code quality enforcement at interpreter level\",",
  "    long_description=long_description,",
  "    long_description_content_type=\"text/markdown\",",
  "    url=\"https://github.com/wronai/spyq\",",
  "    packages=find_packages(),",
  "    classifiers=[",
  "        \"Development Status :: 4 - Beta\",",
  "        \"Intended Audience :: Developers\",",
  "        \"License :: OSI Approved :: MIT License\",",
  "        \"Operating System :: OS Independent\",",
  "        \"Programming Language :: Python :: 3\",",
  "        \"Programming Language :: Python :: 3.7\",",
  "        \"Programming Language :: Python :: 3.8\",",
  "        \"Programming Language :: Python :: 3.9\",",
  "        \"Programming Language :: Python :: 3.10\",",
  "        \"Programming Language :: Python :: 3.11\",",
  "        \"Topic :: Software Development :: Quality Assurance\",",
  "        \"Topic :: Software Development :: Testing\",",
  "    ],",
  "    python_requires=\">=3.7\",",
  "    install_requires=requirements,",
  "    extras_require=\x7b",
  "        \"dev\": [",
  "            \"pytest>=6.0\",",
  "            \"pytest-cov>=2.0\",",
  "            \"black>=21.0\",",
  "            \"flake8>=3.8\",",
  "            \"mypy>=0.800\",",
  "        ],",
  "        \"full\": [",
  "            \"jq>=1.2\",",
  "            \"complexity-report>=2.0\",",
  "            \"jsinspect>=0.8\",",
  "        ]",
  "    \x7d,",
  "    entry_points=\x7b",
  "        \"console_scripts\": [",
  "            \"quality-guard=core.setup_quality_guard:main\",",
  "            \"qg=core.setup_quality_guard:main\",",
  "        ],",
  "    \x7d,",
  "    include_package_data=True,",
  "    package_data=\x7b",
  "        \"quality_guard\": [",
  "            \"config/*.json\",",
  "            \"config/*.js\",",
  "            \"templates/*.py\",",
  "            \"templates/*.json\",",
  "        ],",
  "    \x7d,",
  "    scripts=[",
  "        \"wrappers/python-quality-wrapper.py\",",
  "        \"wrappers/nodejs-quality-wrapper.js\",",
  "        \"scripts/setup-quality-aliases.sh\",",
  "    ],",
  ")"]

def requirementNotes : String := Text.ofLines [
  "# Quality Guard Requirements",
  "",
  "# Core dependencies (minimal)",
  "# Quality Guard is designed to work with Python stdlib only",
  "",
  "# Optional dependencies for enhanced features",
  "# Uncomment if you want full functionality:",
  "",
  "# jq>=1.2.0                    # For JSON processing in shell scripts",
  "# complexity-report>=2.0.0     # For complexity analysis  ",
  "# jsinspect>=0.8.0            # For duplicate detection in JS",
  "# pytest>=6.0.0              # For test discovery",
  "# black>=21.0.0               # For code formatting",
  "# flake8>=3.8.0               # For additional linting",
  "",
  "# Development dependencies",
  "# pytest-cov>=2.0.0          # Coverage reporting",
  "# mypy>=0.800                 # Type checking",
  "# pre-commit>=2.0.0           # Git hooks"]

def fullPackageProject : String := Text.ofLines [
  "[build-system]",
  "requires = [\"setuptools>=45\", \"wheel\", \"setuptools_scm[toml]>=6.2\"]",
  "build-backend = \"setuptools.build_meta\"",
  "",
  "[project]",
  "name = \"quality-guard\"",
  "version = \"1.0.0\"",
  "description = \"Automatic code quality enforcement at interpreter level\"",
  "readme = \"docs/README.md\"",
  "license = \x7bfile = \"LICENSE\"\x7d",
  "authors = [",
  "    \x7bname = \"Quality Guard Team\", email = \"team@qualityguard.dev\"\x7d",
  "]",
  "classifiers = [",
  "    \"Development Status :: 4 - Beta\",",
  "    \"Intended Audience :: Developers\", ",
  "    \"License :: OSI Approved :: MIT License\",",
  "    \"Operating System :: OS Independent\",",
  "    \"Programming Language :: Python :: 3\",",
  "    \"Programming Language :: Python :: 3.7\",",
  "    \"Programming Language :: Python :: 3.8\",",
  "    \"Programming Language :: Python :: 3.9\",",
  "    \"Programming Language :: Python :: 3.10\",",
  "    \"Programming Language :: Python :: 3.11\",",
  "    \"Topic :: Software Development :: Quality Assurance\",",
  "]",
  "requires-python = \">=3.7\"",
  "dependencies = []",
  "",
  "[project.optional-dependencies]",
  "dev = [",
  "    \"pytest>=6.0\",",
  "    \"pytest-cov>=2.0\", ",
  "    \"black>=21.0\",",
  "    \"flake8>=3.8\",",
  "    \"mypy>=0.800\",",
  "]",
  "full = [",
  "    \"complexity-report>=2.0\",",
  "    \"jsinspect>=0.8\",",
  "]",
  "",
  "[project.urls]",
  "Homepage = \"https://github.com/wronai/spyq\"",
  "Documentation = \"https://quality-guard.readthedocs.io\"",
  "Repository = \"https://github.com/wronai/spyq.git\"",
  "Issues = \"https://github.com/wronai/spyq/issues\"",
  "",
  "[project.scripts]",
  "quality-guard = \"core.setup_quality_guard:main\"",
  "qg = \"core.setup_quality_guard:main\"",
  "",
  "[tool.setuptools]",
  "packages = [\"core\", \"wrappers\", \"tools\", \"config\", \"templates\"]",
  "",
  "[tool.black]",
  "line-length = 88",
  "target-version = ['py37', 'py38', 'py39', 'py310', 'py311']",
  "include = '\\.pyi?$'",
  "",
  "[tool.mypy]",
  "python_version = \"3.7\"",
  "warn_return_any = true",
  "warn_unused_configs = true",
  "disallow_untyped_defs = true",
  "",
  "[tool.pytest.ini_options]",
  "minversion = \"6.0\"",
  "addopts = \"-ra -q --strict-markers\"",
  "testpaths = [\"tests\"]"]

def writeShown (path text : String) : Act Unit := do
  Act.writeText path text
  Act.printLine s!"✅ {path}"

/-- Run a program and go on if the system refuses an operation on a file. -/
def recoverFile {α : Type} (a : Act α) (onRefusal : FileError → Act α) : Act α :=
  tryCatch a fun
    | .file e => onRefusal e
    | f => throw f

/-- Make the files of the guard but the rules, and the directory for these. -/
def makePackageFiles : Act Unit := do
  Act.printLine "🔧 Generating missing Quality Guard files..."
  Act.makeDirsNamed "core"
  writeShown "core/__init__.py" coreModule
  writeShown "setup.py" fullPackageScript
  writeShown "requirements.txt" requirementNotes
  writeShown "pyproject.toml" fullPackageProject
  Act.makeDirsNamed "config"

/-- Make all files of the guard.  The answer tells whether the last one could be made too. -/
def makeGuardFiles : Act Bool := do
  makePackageFiles
  let path := "config/quality-config.json"
  recoverFile
    (do
      writeShown path (Json.render Settings.fileStyle completeRules)
      return true)
    fun e => do
      Act.errorLine s!"❌ Error creating {path}: {e.message}"
      return false

def announceGuardFiles : Act Int := do
  Act.printLine "🚀 Starting Quality Guard file generation..."
  Act.recover
    (do
      if ← makeGuardFiles then
        Act.printLine "\n✨ All files generated successfully!"
        return 0
      Act.errorLine "\n❌ Some files could not be generated."
      return 1)
    fun f => do
      Act.errorLine s!"\n❌ An unexpected error occurred: {f.message}"
      return 1

end QualityGate.Scaffold
