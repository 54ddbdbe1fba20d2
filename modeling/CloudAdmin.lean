import CloudAdmin.Sandbox.Connection
import CloudAdmin.Services.Catalogue
import CloudAdmin.Settings.Basic
import CloudAdmin.ClientCall
import CloudAdmin.Proofs.Addresses
import CloudAdmin.Proofs.Pause
import CloudAdmin.Proofs.Session.KeyObfuscation
import CloudAdmin.Proofs.Session.StatedLifetime
import CloudAdmin.Proofs.Settings.Variables
import CloudAdmin.Proofs.PageShape
import CloudAdmin.Proofs.Client.Replay
import CloudAdmin.Proofs.Client.Revocation
import CloudAdmin.Proofs.Client.Visits
import CloudAdmin.Proofs.Client.Destinations
import CloudAdmin.Proofs.Client.Secrecy
import CloudAdmin.Proofs.Client.Interleaving
import CloudAdmin.Proofs.Client.Checks
import CloudAdmin.Proofs.Client.Economy
import CloudAdmin.Proofs.Client.Lapse
import CloudAdmin.Proofs.Client.ShortPages
import CloudAdmin.Proofs.Client.Cursors
import CloudAdmin.Proofs.Sandbox.Credentials
import CloudAdmin.Proofs.Sandbox.Admission
import CloudAdmin.Proofs.Sandbox.Storage
import CloudAdmin.Proofs.Sandbox.Excerpts
import CloudAdmin.Proofs.Sandbox.AtOnce
import CloudAdmin.Proofs.Sandbox.Finding
import CloudAdmin.Proofs.Sandbox.Classifying
import CloudAdmin.Proofs.Sandbox.Asking
import CloudAdmin.Proofs.Sandbox.Failure
import CloudAdmin.Proofs.Sandbox.Creation
