/-
The files that make a directory an installable package.
-/
import QualityGate.Text.Lines

namespace QualityGate.Scaffold

def packageScript : String := Text.ofLines [
  "#!/usr/bin/env python3",
  "\"\"\"Setup script for Quality Guard\"\"\"",
  "",
  "from setuptools import setup, find_packages",
  "from pathlib import Path",
  "",
  "# Read README",
  "readme_path = Path(__file__).parent / \"README.md\"",
  "if readme_path.exists():",
  "    with open(readme_path, \"r\", encoding=\"utf-8\") as fh:",
  "        long_description = fh.read()",
  "else:",
  "    long_description = \"Quality Guard - Automatic Code Quality Enforcement\"",
  "",
  "setup(",
  "    name=\"quality-guard\",",
  "    version=\"1.0.0\",",
  "    author=\"Quality Guard Team\",",
  "    description=\"Automatic code quality enforcement at interpreter level\",",
  "    long_description=long_description,",
  "    long_description_content_type=\"text/markdown\",",
  "    packages=find_packages(),",
  "    classifiers=[",
  "        \"Development Status :: 4 - Beta\",",
  "        \"Intended Audience :: Developers\",",
  "        \"License :: OSI Approved :: MIT License\",",
  "        \"Operating System :: OS Independent\",",
  "        \"Programming Language :: Python :: 3\",",
  "        \"Programming Language :: Python :: 3.7\",",
  "        \"Programming Language :: Python :: 3.8\",",
  "        \"Programming Language :: Python :: 3.9\",",
  "        \"Programming Language :: Python :: 3.10\",",
  "        \"Programming Language :: Python :: 3.11\",",
  "        \"Programming Language :: Python :: 3.12\",",
  "        \"Programming Language :: Python :: 3.13\",",
  "    ],",
  "    python_requires=\">=3.7\",",
  "    entry_points=\x7b",
  "        \"console_scripts\": [",
  "            \"quality-guard=quality_guard_exceptions:main\",",
  "        ],",
  "    \x7d,",
  "    py_modules=[\"quality_guard_exceptions\"],",
  ")"]

def packageProject : String := Text.ofLines [
  "[build-system]",
  "requires = [\"setuptools>=45\", \"wheel\"]",
  "build-backend = \"setuptools.build_meta\"",
  "",
  "[project]",
  "name = \"quality-guard\"",
  "version = \"1.0.0\"",
  "description = \"Automatic code quality enforcement at interpreter level\"",
  "authors = [\x7bname = \"Quality Guard Team\"\x7d]",
  "license = \x7btext = \"MIT\"\x7d",
  "requires-python = \">=3.7\"",
  "classifiers = [",
  "    \"Development Status :: 4 - Beta\",",
  "    \"Intended Audience :: Developers\",",
  "    \"License :: OSI Approved :: MIT License\",",
  "    \"Operating System :: OS Independent\",",
  "    \"Programming Language :: Python :: 3\",",
  "]",
  "",
  "[project.scripts]",
  "quality-guard = \"quality_guard_exceptions:main\"",
  "",
  "[tool.setuptools]",
  "py-modules = [\"quality_guard_exceptions\"]"]

end QualityGate.Scaffold
